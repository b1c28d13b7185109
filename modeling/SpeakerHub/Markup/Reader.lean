import SpeakerHub.Markup.Tree

/-! # Reading markup

A reader that takes one character at a time and builds the tree of the first element it meets. What
follows the root's end tag is never looked at, and whatever cannot be read ends in `failed`.

* **`CharacterData`** — the pieces of text between two tags: comments and instructions separate
  pieces, blanks are trimmed at both ends of the whole, references are resolved piece by piece.
* **`Reader.step`** — what one character does: it goes on with the lexeme it stands in, or closes
  it.
* **`read?`** — the root element of a text. The attributes of its elements stay as they are written;
  `SpeakerHub.Markup.Tag` reads them where they are asked for. -/

namespace SpeakerHub.Markup

/-! ## Character data -/

/-- A piece of text between two tags. -/
inductive Piece where
  /-- Text in which references count. -/
  | plain (raw : List Char)
  /-- The content of a marked section, taken as it is. -/
  | verbatim (raw : List Char)

namespace CharacterData

/-- Trims blanks from the pieces a text begins with, up to the first one that stays. -/
def trimLead : List Piece → List Piece
  | .plain raw :: rest =>
    match trimStart raw with
    | [] => trimLead rest
    | c :: raw => .plain (c :: raw) :: rest
  | pieces => pieces

/-- Trims blanks from the end of the last piece, unless it is verbatim. -/
def trimTrail : List Piece → List Piece
  | [] => []
  | [.plain raw] => [.plain (trimEnd raw)]
  | piece :: rest => piece :: trimTrail rest

/-- The characters of a piece. -/
def resolve? : Piece → Option (List Char)
  | .plain raw => unescape raw
  | .verbatim raw => some raw

/-- The text that pieces make up together, which is no text at all if only blanks stand there. The
outer `none` is a reference that cannot be resolved. -/
def read? (pieces : List Piece) : Option (Option String) :=
  match trimLead pieces with
  | [] => some none
  | pieces => ((trimTrail pieces).mapM resolve?).map fun texts => some (String.ofList texts.flatten)

end CharacterData

/-! ## The state of a reader -/

/-- What a reader stands in. Characters are kept last first. -/
inductive Lexeme where
  /-- Text outside of tags. -/
  | text (raw : List Char)
  /-- Behind `<`. -/
  | opening
  /-- A tag, inside a quoted value or not. -/
  | tag (raw : List Char) (quote : Option Char)
  /-- An end tag, behind `</`. -/
  | endTag (raw : List Char)
  /-- An instruction, behind `<?`. -/
  | instruction (raw : List Char)
  /-- Behind `<!`. -/
  | bang
  /-- Behind `<!-`. -/
  | dash
  /-- A comment, behind `<!--`. -/
  | comment (raw : List Char)
  /-- The keyword of a marked section, behind `<![`. -/
  | keyword (raw : List Char)
  /-- A marked section, behind `<![CDATA[`. -/
  | verbatim (raw : List Char)
  /-- A document type, behind `<!`, with the number of brackets open in it. -/
  | documentType (raw : List Char) (depth : Nat)

/-- An element whose end tag has not come yet. -/
structure Frame where
  /-- The name in the opening tag. -/
  name : String
  /-- What follows the name in the opening tag. -/
  attributes : List Char
  /-- The children so far, last first. -/
  children : List (Node (List Char))

/-- A reader on its way. -/
inductive Reader where
  /-- Inside a lexeme, with the pieces of text since the last tag and the open elements, both last
  first. -/
  | reading (lexeme : Lexeme) (pieces : List Piece) (frames : List Frame)
  /-- Past the end of the root. -/
  | done (root : Element (List Char))
  /-- Past something that cannot be read. -/
  | failed

namespace Reader

/-- At the start of a text. -/
def start : Reader :=
  .reading (.text []) [] []

/-- Between two lexemes, with no text since the last tag. -/
def between (frames : List Frame) : Reader :=
  .reading (.text []) [] frames

/-- Adds the text since the last tag to the innermost element. Outside of the root there may be
none. -/
def flush? (pieces : List Piece) (frames : List Frame) : Option (List Frame) :=
  (CharacterData.read? pieces.reverse).bind fun
    | none => some frames
    | some text =>
      match frames with
      | [] => none
      | frame :: rest => some ({ frame with children := .text text :: frame.children } :: rest)

/-- Adds a finished element to the one around it. The outermost one is the root. -/
def close (e : Element (List Char)) : List Frame → Reader
  | [] => .done e
  | frame :: rest => between ({ frame with children := e.toNode :: frame.children } :: rest)

/-- The name that a tag begins with, and what follows it. -/
def splitName (tag : List Char) : String × List Char :=
  (String.ofList (tag.takeWhile (!isBlank ·)), tag.dropWhile (!isBlank ·))

/-- Ends an opening tag (its characters last first), which closes its element if it ends in `/`. -/
def endOpening (raw : List Char) (pieces : List Piece) (frames : List Frame) : Reader :=
  match flush? pieces frames with
  | none => .failed
  | some frames =>
    match raw with
    | '/' :: raw =>
      let (name, attributes) := splitName raw.reverse
      close { name, attributes, children := [] } frames
    | raw =>
      let (name, attributes) := splitName raw.reverse
      between ({ name, attributes, children := [] } :: frames)

/-- The name in an end tag (its characters last first): blanks behind it do not count, but a name of
blanks only is kept. -/
def endTagName (raw : List Char) : String :=
  match raw.dropWhile isBlank with
  | [] => String.ofList raw.reverse
  | name => String.ofList name.reverse

/-- Ends an end tag, which has to name the innermost open element. -/
def endClosing (raw : List Char) (pieces : List Piece) (frames : List Frame) : Reader :=
  match flush? pieces frames with
  | some (frame :: rest) =>
    if endTagName raw = frame.name then
      close { name := frame.name, attributes := frame.attributes,
              children := frame.children.reverse } rest
    else .failed
  | _ => .failed

/-- Whether a document type (its characters last first) is spelt as one, in any case, and names a
root. -/
def isDocumentType (raw : List Char) : Bool :=
  let content := raw.reverse
  (content.take 7).map Char.toLower == "doctype".toList && (content.drop 7).any (!isBlank ·)

/-- Ends a document type. Text in front of it is closed off. -/
def endDocumentType (raw : List Char) (pieces : List Piece) (frames : List Frame) : Reader :=
  if isDocumentType raw then
    match flush? pieces frames with
    | some frames => between frames
    | none => .failed
  else .failed

/-- The pieces with the text in front of a `<`, if there is any. -/
def pushText (raw : List Char) (pieces : List Piece) : List Piece :=
  if raw.isEmpty then pieces else .plain raw.reverse :: pieces

/-- What one character does to a reader. -/
def step : Reader → Char → Reader
  | .done root, _ => .done root
  | .failed, _ => .failed
  | .reading lexeme pieces frames, c =>
    match lexeme with
    | .text raw =>
      if c = '<' then .reading .opening (pushText raw pieces) frames
      else .reading (.text (c :: raw)) pieces frames
    | .opening =>
      match c with
      | '/' => .reading (.endTag []) pieces frames
      | '!' => .reading .bang pieces frames
      | '?' => .reading (.instruction []) pieces frames
      | '>' => endOpening [] pieces frames
      | c => .reading (.tag [c] (if c = '"' ∨ c = '\'' then some c else none)) pieces frames
    | .tag raw none =>
      if c = '>' then endOpening raw pieces frames
      else .reading (.tag (c :: raw) (if c = '"' ∨ c = '\'' then some c else none)) pieces frames
    | .tag raw (some quote) =>
      .reading (.tag (c :: raw) (if c = quote then none else some quote)) pieces frames
    | .endTag raw =>
      if c = '>' then endClosing raw pieces frames
      else .reading (.endTag (c :: raw)) pieces frames
    | .instruction raw =>
      if c = '>' then
        match raw with
        | [] => .failed
        | '?' :: _ => .reading (.text []) pieces frames
        | raw => .reading (.instruction (c :: raw)) pieces frames
      else .reading (.instruction (c :: raw)) pieces frames
    | .bang =>
      match c with
      | '-' => .reading .dash pieces frames
      | '[' => .reading (.keyword []) pieces frames
      | 'D' => .reading (.documentType ['D'] 0) pieces frames
      | 'd' => .reading (.documentType ['d'] 0) pieces frames
      | _ => .failed
    | .dash => if c = '-' then .reading (.comment []) pieces frames else .failed
    | .comment raw =>
      match c, raw with
      | '>', '-' :: '-' :: _ => .reading (.text []) pieces frames
      | c, raw => .reading (.comment (c :: raw)) pieces frames
    | .keyword raw =>
      let word := (c :: raw).reverse
      if word = "CDATA[".toList then .reading (.verbatim []) pieces frames
      else if word.isPrefixOf "CDATA[".toList then .reading (.keyword (c :: raw)) pieces frames
      else .failed
    | .verbatim raw =>
      match c, raw with
      | '>', ']' :: ']' :: raw =>
        .reading (.text []) (.verbatim raw.reverse :: pieces) frames
      | c, raw => .reading (.verbatim (c :: raw)) pieces frames
    | .documentType raw depth =>
      match c, depth with
      | '>', 0 => endDocumentType raw pieces frames
      | '>', depth + 1 => .reading (.documentType (c :: raw) depth) pieces frames
      | '<', depth => .reading (.documentType (c :: raw) (depth + 1)) pieces frames
      | c, depth => .reading (.documentType (c :: raw) depth) pieces frames

/-- What a sequence of characters does to a reader. -/
def run (r : Reader) (text : List Char) : Reader :=
  text.foldl step r

/-- Reading a text is reading its parts one after the other. -/
theorem run_append (r : Reader) (s t : List Char) : r.run (s ++ t) = (r.run s).run t :=
  List.foldl_append

/-- Nothing changes a reader that has the root. -/
@[simp] theorem run_done (root : Element (List Char)) (text : List Char) :
    (Reader.done root).run text = .done root := by
  induction text with
  | nil => rfl
  | cons c text ih => exact ih

/-- Nothing mends a reader that has failed. -/
@[simp] theorem run_failed (text : List Char) : Reader.failed.run text = .failed := by
  induction text with
  | nil => rfl
  | cons c text ih => exact ih

/-- The root a reader has come past, if it has. -/
def root? : Reader → Option (Element (List Char))
  | .done root => some root
  | _ => none

end Reader

/-- A text without the byte order mark it may begin with. -/
def dropMark : List Char → List Char
  | '\uFEFF' :: text => text
  | text => text

/-- The first element of a text, or `none` if it cannot be read up to its end tag. -/
def read? (text : String) : Option (Element (List Char)) :=
  (Reader.start.run (dropMark text.toList)).root?

end SpeakerHub.Markup
