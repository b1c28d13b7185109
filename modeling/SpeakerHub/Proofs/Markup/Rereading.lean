import SpeakerHub.Proofs.Markup.Escaping
import SpeakerHub.Proofs.Markup.WellFormed

/-! # Written trees read back

The reader takes what the printer writes and builds the tree it was written from, compact or
indented, with the attributes of each element as they are written.

* **`Reader.step_text`**, **`Reader.step_tag`** and those behind them — what one character does.
* **`Reader.run_openTag`**, **`Reader.run_openEndTag`** — what a reader makes of a tag up to its
  last character.
* **`Pending`** — how the characters since the last tag stand for the text read so far; it differs
  between mixed content, where every character counts, and indented lines, where none does.
* **`Reader.run_siblings`** — siblings, by induction on their list; **`Reader.run_unclosed`** — an
  element up to its last character; **`Reader.run_write`** — elements, by induction on their tree.
* **`read_element`**, **`read_render`** — elements on their own and documents: `read?` gives the
  root, joined as it is read. -/

namespace SpeakerHub.Markup

/-- Attributes as they are written behind a name. -/
def written (attributes : Attributes) : List Char :=
  attributes.flatMap writeAttribute

/-- Indentation that a reader trims away. -/
def IsIndent (indent : Option String) : Prop :=
  ∀ unit ∈ indent, ∀ c ∈ unit.toList, isBlank c

/-- Compact lines have no indentation to trim. -/
theorem isIndent_none : IsIndent none := by
  simp [IsIndent]

/-- A break between lines is blank. -/
theorem isBlank_lineBreak {indent : Option String} (h : IsIndent indent) (depth : Nat) :
    ∀ c ∈ lineBreak indent depth, isBlank c := by
  cases indent with
  | none => simp [lineBreak]
  | some unit =>
    intro c hc
    rw [lineBreak, List.mem_cons, List.mem_flatten] at hc
    rcases hc with rfl | ⟨line, hline, hc⟩
    · rfl
    · rw [List.eq_of_mem_replicate hline] at hc
      exact h unit rfl c hc

/-- Blanks hold no markup. -/
theorem lt_not_mem_of_isBlank {text : List Char} (h : ∀ c ∈ text, isBlank c) : '<' ∉ text := by
  intro hlt
  have := h '<' hlt
  contradiction

/-! ## Character data -/

/-- **The characters since the last tag** (last first) stand for the text that has been read. Where
lines are indented they are blank and stand for none. -/
def Pending (indent : Option String) (raw content : List Char) : Prop :=
  match indent with
  | none => Rereads raw.reverse content
  | some _ => (∀ c ∈ raw, isBlank c) ∧ content = []

/-- Right behind a tag nothing is pending. -/
theorem Pending.nil (indent : Option String) : Pending indent [] [] := by
  cases indent with
  | none => exact Rereads.nil
  | some unit => exact ⟨by simp, rfl⟩

/-- A break between lines adds nothing to the text. -/
theorem Pending.lineBreak {indent : Option String} {raw content : List Char}
    (h : Pending indent raw content) (hi : IsIndent indent) (depth : Nat) :
    Pending indent ((Markup.lineBreak indent depth).reverse ++ raw) content := by
  cases indent with
  | none => exact h
  | some unit =>
    refine ⟨fun c hc => ?_, h.2⟩
    rcases List.mem_append.1 hc with hc | hc
    · exact isBlank_lineBreak hi depth c (List.mem_reverse.1 hc)
    · exact h.1 c hc

/-- Blanks between two tags are no text. -/
theorem CharacterData.read_blank {raw : List Char} (h : ∀ c ∈ raw, isBlank c) :
    CharacterData.read? (Reader.pushText raw []).reverse = some none := by
  cases raw with
  | nil => rfl
  | cons c raw =>
    have htrim : trimStart (c :: raw).reverse = [] := by
      rw [trimStart, List.dropWhile_eq_nil_iff]
      exact fun d hd => h d (List.mem_reverse.1 hd)
    simp only [Reader.pushText, List.isEmpty_cons, Bool.false_eq_true, if_false,
      List.reverse_singleton, CharacterData.read?, CharacterData.trimLead, htrim]

/-- Written text between two tags is the text it reads back as. -/
theorem CharacterData.read_rereads {raw content : List Char} (h : Rereads raw.reverse content) :
    CharacterData.read? (Reader.pushText raw []).reverse
      = some (if content = [] then none else some (String.ofList content)) := by
  cases raw with
  | nil =>
    obtain rfl : [] = content := by simpa [unescape, unescapeFrom] using h.value
    rfl
  | cons c raw =>
    have hne : content ≠ [] := fun he => by simpa using h.empty he
    obtain ⟨d, rest, hd⟩ : ∃ d rest, (c :: raw).reverse = d :: rest :=
      List.exists_cons_of_ne_nil (by simp)
    -- There is one piece of text, and nothing to trim at either of its ends.
    have hstart := h.trimmed.trimStart
    have hend := h.trimmed.trimEnd
    have hvalue := h.value
    rw [hd] at hstart hend hvalue
    simp only [Reader.pushText, List.isEmpty_cons, Bool.false_eq_true, if_false,
      List.reverse_singleton, CharacterData.read?, CharacterData.trimLead, hd, hstart,
      CharacterData.trimTrail, hend, List.mapM_cons, List.mapM_nil, CharacterData.resolve?, hvalue,
      if_neg hne]
    simp

/-- **What is pending becomes a text node**, unless it stands for no text. -/
theorem Pending.flush {indent : Option String} {raw content : List Char}
    (h : Pending indent raw content) (frame : Frame) (rest : List Frame) :
    Reader.flush? (Reader.pushText raw []) (frame :: rest)
      = some
        ({ frame with children := (textNodes content).reverse ++ frame.children } :: rest) := by
  cases indent with
  | none =>
    rw [Reader.flush?, CharacterData.read_rereads h]
    by_cases hc : content = []
    · simp [hc, textNodes]
    · simp [hc, textNodes]
  | some unit =>
    obtain ⟨hblank, rfl⟩ := h
    rw [Reader.flush?, CharacterData.read_blank hblank]
    rfl

namespace Reader

/-! ## What one character does -/

section

variable (raw : List Char) (pieces : List Piece) (frames : List Frame) (c : Char)

/-- A `<` ends text. -/
theorem step_text : step (reading (.text raw) pieces frames) c
    = if c = '<' then reading .opening (pushText raw pieces) frames
      else reading (.text (c :: raw)) pieces frames := rfl

/-- A `>` ends a tag, and a quote opens a value in it. -/
theorem step_tag : step (reading (.tag raw none) pieces frames) c
    = if c = '>' then endOpening raw pieces frames
      else reading (.tag (c :: raw) (if c = '"' ∨ c = '\'' then some c else none)) pieces frames :=
  rfl

/-- Its quote ends a value, and nothing else does. -/
theorem step_value (quote : Char) : step (reading (.tag raw (some quote)) pieces frames) c
    = reading (.tag (c :: raw) (if c = quote then none else some quote)) pieces frames := rfl

/-- A `>` ends an end tag. -/
theorem step_endTag : step (reading (.endTag raw) pieces frames) c
    = if c = '>' then endClosing raw pieces frames
      else reading (.endTag (c :: raw)) pieces frames := rfl

end

/-! ## Tags -/

/-- Characters that a lexeme only takes in are kept in it, last first. -/
theorem run_keep (lexeme : List Char → Lexeme) {text : List Char} {pieces : List Piece}
    {frames : List Frame}
    (h : ∀ c ∈ text, ∀ raw, step (reading (lexeme raw) pieces frames) c
      = reading (lexeme (c :: raw)) pieces frames) (raw : List Char) :
    (reading (lexeme raw) pieces frames).run text
      = reading (lexeme (text.reverse ++ raw)) pieces frames := by
  induction text generalizing raw with
  | nil => rfl
  | cons c text ih =>
    rw [run, List.foldl_cons, h c List.mem_cons_self, ← run,
      ih fun d hd => h d (List.mem_cons_of_mem c hd), List.reverse_cons, List.append_assoc,
      List.singleton_append]

/-- Text goes on up to the next tag. -/
theorem run_text {text : List Char} (h : '<' ∉ text) (raw : List Char) (pieces : List Piece)
    (frames : List Frame) :
    (reading (.text raw) pieces frames).run text
      = reading (.text (text.reverse ++ raw)) pieces frames := by
  refine run_keep .text (fun c hc raw => ?_) raw
  have hne : c ≠ '<' := fun he => h (he ▸ hc)
  rw [step_text, if_neg hne]

/-- A tag goes on up to its end or the next quote. -/
theorem run_tag {text : List Char} (h : ∀ c ∈ text, c ≠ '>' ∧ c ≠ '"' ∧ c ≠ '\'')
    (raw : List Char) (pieces : List Piece) (frames : List Frame) :
    (reading (.tag raw none) pieces frames).run text
      = reading (.tag (text.reverse ++ raw) none) pieces frames := by
  refine run_keep (.tag · none) (fun c hc raw => ?_) raw
  obtain ⟨hend, hdouble, hsingle⟩ := h c hc
  rw [step_tag, if_neg hend, if_neg (not_or.2 ⟨hdouble, hsingle⟩)]

/-- A quoted value goes on up to its quote. -/
theorem run_value {value : List Char} (h : '"' ∉ value) (raw : List Char) (pieces : List Piece)
    (frames : List Frame) :
    (reading (.tag raw (some '"')) pieces frames).run value
      = reading (.tag (value.reverse ++ raw) (some '"')) pieces frames := by
  refine run_keep (.tag · (some '"')) (fun c hc raw => ?_) raw
  have hne : c ≠ '"' := fun he => h (he ▸ hc)
  rw [step_value, if_neg hne]

/-- An end tag goes on up to its end. -/
theorem run_endTag {text : List Char} (h : '>' ∉ text) (raw : List Char) (pieces : List Piece)
    (frames : List Frame) :
    (reading (.endTag raw) pieces frames).run text
      = reading (.endTag (text.reverse ++ raw)) pieces frames := by
  refine run_keep .endTag (fun c hc raw => ?_) raw
  have hne : c ≠ '>' := fun he => h (he ▸ hc)
  rw [step_endTag, if_neg hne]

/-- A name does not end a tag and opens no value. -/
theorem run_name {name : String} (h : IsName name) (raw : List Char) (pieces : List Piece)
    (frames : List Frame) :
    (reading (.tag raw none) pieces frames).run name.toList
      = reading (.tag (name.toList.reverse ++ raw) none) pieces frames := by
  refine run_tag (fun c hc => ?_) raw pieces frames
  have hname := h.isNameChar hc
  exact ⟨ne_of_isNameChar hname (by decide), ne_of_isNameChar hname (by decide),
    ne_of_isNameChar hname (by decide)⟩

/-- An attribute stays inside its tag. -/
theorem run_attribute {a : String × String} (h : IsName a.1) (raw : List Char)
    (pieces : List Piece) (frames : List Frame) :
    (reading (.tag raw none) pieces frames).run (writeAttribute a)
      = reading (.tag ((writeAttribute a).reverse ++ raw) none) pieces frames := by
  have hopen (raw : List Char) :
      (reading (.tag raw none) pieces frames).run ['=', '"']
        = reading (.tag ('"' :: '=' :: raw) (some '"')) pieces frames := rfl
  have hclose (raw : List Char) :
      (reading (.tag raw (some '"')) pieces frames).run ['"']
        = reading (.tag ('"' :: raw) none) pieces frames := rfl
  have hspace : (reading (.tag raw none) pieces frames).run [' ']
      = reading (.tag (' ' :: raw) none) pieces frames := rfl
  have hparts : writeAttribute a
      = [' '] ++ (a.1.toList ++ (['=', '"'] ++ (escape a.2.toList ++ ['"']))) := by
    simp [writeAttribute]
  rw [hparts, run_append, hspace, run_append, run_name h, run_append, hopen, run_append,
    run_value (quote_not_mem_escape _), hclose]
  simp

/-- Attributes stay inside their tag. -/
theorem run_attributes {attributes : Attributes} (h : ∀ a ∈ attributes, IsName a.1)
    (raw : List Char) (pieces : List Piece) (frames : List Frame) :
    (reading (.tag raw none) pieces frames).run (written attributes)
      = reading (.tag ((written attributes).reverse ++ raw) none) pieces frames := by
  induction attributes generalizing raw with
  | nil => rfl
  | cons a attributes ih =>
    rw [written, List.flatMap_cons, run_append, run_attribute (h a List.mem_cons_self), ← written,
      ih fun b hb => h b (List.mem_cons_of_mem a hb), List.reverse_append, List.append_assoc]

/-- The first character of a name opens a tag. -/
theorem run_opening {name : String} (h : IsName name) (raw : List Char) (pieces : List Piece)
    (frames : List Frame) :
    (reading (.text raw) pieces frames).run ('<' :: name.toList)
      = reading (.tag name.toList.reverse none) (pushText raw pieces) frames := by
  obtain ⟨c, rest, hc⟩ := List.exists_cons_of_ne_nil h.1
  have hname := h.isNameChar (c := c) (by rw [hc]; exact List.mem_cons_self)
  have hopen : step (reading .opening (pushText raw pieces) frames) c
      = reading (.tag [c] none) (pushText raw pieces) frames := by
    have hq : ¬(c = '"' ∨ c = '\'') := not_or.2
      ⟨ne_of_isNameChar hname (by decide), ne_of_isNameChar hname (by decide)⟩
    -- The other cases are the characters that begin end tags, comments and declarations.
    unfold step
    dsimp only
    split
    case h_5 => rw [if_neg hq]
    all_goals exact absurd rfl (ne_of_isNameChar hname (by decide))
  have htag : (reading (.tag [c] none) (pushText raw pieces) frames).run rest
      = reading (.tag (rest.reverse ++ [c]) none) (pushText raw pieces) frames := by
    refine run_tag (fun d hd => ?_) [c] _ frames
    have hd := h.isNameChar (c := d) (by rw [hc]; exact List.mem_cons_of_mem c hd)
    exact ⟨ne_of_isNameChar hd (by decide), ne_of_isNameChar hd (by decide),
      ne_of_isNameChar hd (by decide)⟩
  have hlt : step (reading (.text raw) pieces frames) '<'
      = reading .opening (pushText raw pieces) frames := by
    rw [step_text, if_pos rfl]
  rw [hc, run, List.foldl_cons, List.foldl_cons, hlt, hopen, ← run, htag, List.reverse_cons]

/-- The name in front of attributes is found again. -/
theorem splitName_written {name : String} (h : IsName name) (attributes : Attributes) :
    splitName (name.toList ++ written attributes) = (name, written attributes) := by
  have hname : ∀ c ∈ name.toList, (!isBlank c) = true := fun c hc => by
    rw [isBlank_of_isNameChar (h.isNameChar hc), Bool.not_false]
  have hgap : (written attributes).takeWhile (!isBlank ·) = []
      ∧ (written attributes).dropWhile (!isBlank ·) = written attributes := by
    cases attributes with
    | nil => exact ⟨rfl, rfl⟩
    | cons a attributes => exact ⟨rfl, rfl⟩
  rw [splitName, List.takeWhile_append_of_pos hname, List.dropWhile_append_of_pos hname, hgap.1,
    hgap.2, List.append_nil, String.ofList_toList]

/-- The name in an end tag is found again. -/
theorem endTagName_reverse {name : String} (h : IsName name) :
    endTagName name.toList.reverse = name := by
  have hkeep : name.toList.reverse.dropWhile isBlank = name.toList.reverse := by
    obtain ⟨c, rest, hc⟩ := List.exists_cons_of_ne_nil (l := name.toList.reverse)
      (by simpa using h.1)
    have hmem : c ∈ name.toList := by
      rw [← List.mem_reverse, hc]
      exact List.mem_cons_self
    rw [hc, List.dropWhile_cons, isBlank_of_isNameChar (h.isNameChar hmem), if_neg (by decide)]
  unfold endTagName
  rw [hkeep]
  split <;> simp_all

/-- What is written behind the opening of a tag does not end in a slash. -/
theorem reverse_written_ne_slash {name : String} (h : IsName name) (attributes : Attributes)
    (rest : List Char) : (name.toList ++ written attributes).reverse ≠ '/' :: rest := by
  intro he
  rcases List.eq_nil_or_concat attributes with rfl | ⟨before, a, rfl⟩
  · -- Without attributes the last character belongs to the name.
    have hmem : '/' ∈ name.toList := by
      rw [← List.mem_reverse, ← List.append_nil name.toList]
      exact he ▸ List.mem_cons_self
    exact ne_of_isNameChar (h.isNameChar hmem) (by decide) rfl
  · simp [written, writeAttribute] at he

/-- A tag without children closes its element. -/
theorem endOpening_empty {name : String} (h : IsName name) (attributes : Attributes)
    {pieces : List Piece} {frames frames' : List Frame}
    (hflush : flush? pieces frames = some frames') :
    endOpening ('/' :: (name.toList ++ written attributes).reverse) pieces frames
      = close { name, attributes := written attributes, children := [] } frames' := by
  simp only [endOpening, hflush, List.reverse_reverse, splitName_written h]

/-- A tag with children behind it opens its element. -/
theorem endOpening_full {name : String} (h : IsName name) (attributes : Attributes)
    {pieces : List Piece} {frames frames' : List Frame}
    (hflush : flush? pieces frames = some frames') :
    endOpening (name.toList ++ written attributes).reverse pieces frames
      = between ({ name, attributes := written attributes, children := [] } :: frames') := by
  unfold endOpening
  rw [hflush]
  dsimp only
  split
  case h_1 he => exact absurd he (reverse_written_ne_slash h attributes _)
  case h_2 => simp only [List.reverse_reverse, splitName_written h]

/-- An end tag is open up to its end. -/
theorem run_openEndTag {name : String} (h : IsName name) (raw : List Char) (frames : List Frame) :
    (reading (.text raw) [] frames).run (['<', '/'] ++ name.toList)
      = reading (.endTag name.toList.reverse) (pushText raw []) frames := by
  have hopen : (reading (.text raw) [] frames).run ['<', '/']
      = reading (.endTag []) (pushText raw []) frames := rfl
  have hend : '>' ∉ name.toList := fun hmem =>
    ne_of_isNameChar (h.isNameChar hmem) (by decide) rfl
  rw [run_append, hopen, run_endTag hend, List.append_nil]

/-- **An end tag closes its element** with the text that is pending in front of it. -/
theorem endClosing_of_pending {indent : Option String} {raw content : List Char} {frame : Frame}
    (h : Pending indent raw content) (hname : IsName frame.name) (rest : List Frame) :
    endClosing frame.name.toList.reverse (pushText raw []) (frame :: rest)
      = close { name := frame.name, attributes := frame.attributes,
                children := frame.children.reverse ++ textNodes content } rest := by
  have htext : (textNodes content : List (Node (List Char))).reverse.reverse = textNodes content :=
    List.reverse_reverse _
  rw [endClosing, h.flush frame rest]
  simp only [endTagName_reverse hname, if_true, List.reverse_append, htext]

/-! ## Elements -/

/-- What a reader makes of a written element, whatever stands in front of it: the element as it is
read goes to the one around it. Text nodes are read with their neighbours. -/
def RunsTo (node : Node Attributes) : Prop :=
  ∀ name attributes children, node = .element name attributes children →
    ∀ indent, IsIndent indent → ∀ depth raw frames frames',
      flush? (pushText raw []) frames = some frames' →
      (reading (.text raw) [] frames).run (node.write indent depth)
        = close { name, attributes := written attributes,
                  children := Node.joinedAll written [] children } frames'

/-- **Siblings** are read into the element around them, if each of them is read. What is pending
behind them is the text that they end with. -/
theorem run_siblings {children : List (Node Attributes)} (h : ∀ n ∈ children, RunsTo n)
    {indent : Option String} (hi : IsIndent indent)
    (hmixed : indent.isSome → children.all Node.isElement) (depth : Nat) (frame : Frame)
    (rest : List Frame) {raw content : List Char} (hp : Pending indent raw content) :
    ∃ raw' content' inner, Pending indent raw' content'
      ∧ inner.reverse ++ textNodes content'
        = frame.children.reverse ++ Node.joinedAll written content children
      ∧ (reading (.text raw) [] (frame :: rest)).run (Node.writeAll indent depth children)
        = reading (.text raw') [] ({ frame with children := inner } :: rest) := by
  -- What is pending grows with each text and is gone behind each element.
  induction children generalizing raw content frame with
  | nil => exact ⟨raw, content, frame.children, hp, rfl, rfl⟩
  | cons node children ih =>
    have hrest (n : Node Attributes) (hn : n ∈ children) : RunsTo n :=
      h n (List.mem_cons_of_mem node hn)
    have hmixed' : indent.isSome → children.all Node.isElement := fun hs => by
      have hall := hmixed hs
      rw [List.all_cons, Bool.and_eq_true] at hall
      exact hall.2
    cases node with
    | text more =>
      -- Lines are not indented where there is text.
      obtain rfl : indent = none := by
        cases indent with
        | none => rfl
        | some unit => exact absurd (hmixed rfl) (by simp [Node.isElement])
      have hmore := Rereads.writeText more.toList
      have hp' :
          Pending none ((writeText more.toList).reverse ++ raw) (content ++ more.toList) := by
        rw [Pending, List.reverse_append, List.reverse_reverse]
        exact Rereads.append hp hmore
      rw [Node.writeAll, Node.write, lineBreak, List.nil_append, run_append, run_text hmore.clean,
        Node.joinedAll]
      exact ih hrest hmixed' frame hp'
    | element name attributes inner =>
      have hbreak : '<' ∉ lineBreak indent depth :=
        lt_not_mem_of_isBlank (isBlank_lineBreak hi depth)
      have hnode := h _ List.mem_cons_self name attributes inner rfl indent hi depth
        ((lineBreak indent depth).reverse ++ raw) (frame :: rest) _
        ((hp.lineBreak hi depth).flush frame rest)
      rw [Node.writeAll, List.append_assoc, run_append, run_text hbreak, run_append, hnode]
      have hbehind := ih hrest hmixed'
        { frame with
          children := .element name (written attributes) (Node.joinedAll written [] inner)
            :: ((textNodes content).reverse ++ frame.children) } (.nil indent)
      simpa [Node.joinedAll, Node.joined, close, between, Element.toNode] using hbehind

/-- The lines inside of an element are indented where all its children are elements. -/
def inside (indent : Option String) (children : List (Node Attributes)) : Option String :=
  if children.all Node.isElement then indent else none

/-- What indents an element indents what is inside of it. -/
theorem isIndent_inside {indent : Option String} (h : IsIndent indent)
    (children : List (Node Attributes)) : IsIndent (inside indent children) := by
  by_cases hall : children.all Node.isElement = true
  · rwa [inside, if_pos hall]
  · rw [inside, if_neg hall]
    exact isIndent_none

/-- Mixed content is written without indentation. -/
theorem all_isElement_of_inside {indent : Option String} {children : List (Node Attributes)}
    (h : (inside indent children).isSome) : children.all Node.isElement := by
  by_contra hall
  rw [inside, if_neg hall] at h
  cases h

/-- A tag is open up to its end. -/
theorem run_openTag {name : String} {attributes : Attributes} (hname : IsName name)
    (hkeys : ∀ a ∈ attributes, IsName a.1) (raw : List Char) (frames : List Frame) :
    (reading (.text raw) [] frames).run ('<' :: name.toList ++ written attributes)
      = reading (.tag (name.toList ++ written attributes).reverse none) (pushText raw [])
          frames := by
  rw [run_append, run_opening hname, run_attributes hkeys, List.reverse_append]

/-- **An element is open up to its last character**, and that closes it. -/
theorem run_unclosed {name : String} {attributes : Attributes} {children : List (Node Attributes)}
    (hname : IsName name) (hkeys : ∀ a ∈ attributes, IsName a.1) (h : ∀ n ∈ children, RunsTo n)
    {indent : Option String} (hi : IsIndent indent) (depth : Nat) {raw : List Char}
    {frames frames' : List Frame} (hflush : flush? (pushText raw []) frames = some frames') :
    ∃ front lexeme pieces opened,
      (Node.element name attributes children).write indent depth = front ++ ['>']
        ∧ (reading (.text raw) [] frames).run front = reading lexeme pieces opened
        ∧ (reading lexeme pieces opened).run ['>']
          = close { name, attributes := written attributes,
                    children := Node.joinedAll written [] children } frames' := by
  have hopening := run_openTag hname hkeys raw frames
  cases children with
  | nil =>
    -- The only tag closes the element.
    refine ⟨('<' :: name.toList ++ written attributes) ++ ['/'],
      .tag ('/' :: (name.toList ++ written attributes).reverse) none, pushText raw [], frames,
      ?_, ?_, endOpening_empty hname attributes hflush⟩
    · simp [Node.write, written]
    · rw [run_append, hopening]
      rfl
  | cons child children =>
    -- Behind the first tag and the children, the end tag is open.
    have hinside := isIndent_inside hi (child :: children)
    have hbreak : '<' ∉ lineBreak (inside indent (child :: children)) depth :=
      lt_not_mem_of_isBlank (isBlank_lineBreak hinside depth)
    have hend : (reading (.tag (name.toList ++ written attributes).reverse none) (pushText raw [])
        frames).run ['>']
          = between ({ name, attributes := written attributes, children := [] } :: frames') :=
      endOpening_full hname attributes hflush
    obtain ⟨raw', content', inner, hp, hjoined, hsiblings⟩ :=
      run_siblings h hinside all_isElement_of_inside (depth + 1)
        { name, attributes := written attributes, children := [] } frames' (.nil _)
    let frame : Frame := { name, attributes := written attributes, children := inner }
    have hclosing : (reading (.endTag name.toList.reverse)
        (pushText ((lineBreak (inside indent (child :: children)) depth).reverse ++ raw') [])
        (frame :: frames')).run ['>']
          = close { name, attributes := written attributes,
                    children := Node.joinedAll written [] (child :: children) } frames' := by
      have hframe : IsName frame.name := hname
      have hpending := endClosing_of_pending (hp.lineBreak hinside depth) hframe frames'
      rwa [hjoined] at hpending
    refine ⟨('<' :: name.toList ++ written attributes) ++ (['>']
      ++ (Node.writeAll (inside indent (child :: children)) (depth + 1) (child :: children)
        ++ (lineBreak (inside indent (child :: children)) depth ++ (['<', '/'] ++ name.toList)))),
      _, _, _, ?_, ?_, hclosing⟩
    · simp [Node.write, written, inside]
    · rw [run_append, hopening, run_append, hend, run_append, between, hsiblings, run_append,
        run_text hbreak, run_openEndTag hname]

/-- **A written element is read as it is joined**, by induction on its tree. -/
theorem run_write {node : Node Attributes} (h : node.IsWellFormed) : RunsTo node := by
  induction h with
  | text content => rintro _ _ _ ⟨⟩
  | @element name attributes children named keys distinct inner ih =>
    rintro _ _ _ ⟨⟩ indent hi depth raw frames frames' hflush
    obtain ⟨front, lexeme, pieces, opened, hwrite, hfront, hlast⟩ :=
      run_unclosed named keys ih hi depth hflush
    rw [hwrite, run_append, hfront, hlast]

/-- A written root is what a reader has come past, if there were only blanks in front of it. -/
theorem root_run_write {e : Element Attributes} (h : e.IsWellFormed) {indent : Option String}
    (hi : IsIndent indent) (raw : List Char) (hraw : ∀ c ∈ raw, isBlank c) :
    ((reading (.text raw) [] []).run (e.toNode.write indent 0)).root?
      = some (e.joined written) := by
  have hflush : flush? (pushText raw []) [] = some [] := by
    rw [flush?, CharacterData.read_blank hraw]
    rfl
  rw [run_write h e.name e.attributes e.children rfl indent hi 0 raw [] [] hflush]
  rfl

end Reader

/-! ## Documents -/

/-- **An element reads back** on its own, as it is joined, with its attributes as they are
written. -/
theorem read_element {e : Element Attributes} (h : e.IsWellFormed) :
    read? e.render = some (e.joined written) := by
  have hmark : dropMark (e.toNode.write none 0) = e.toNode.write none 0 := by
    rw [Element.toNode, Node.write]
    rfl
  rw [read?, Element.render, String.toList_ofList, hmark]
  exact Reader.root_run_write h isIndent_none [] (by simp)

/-- A declaration that a reader passes over. -/
def IsDeclaration (declaration : String) : Prop :=
  ∀ text, read? (declaration ++ text) = (Reader.start.run text.toList).root?

/-- **A document** is its declaration and its root, with nothing but blanks between them. -/
theorem exists_render_eq (d : Document) :
    ∃ line : List Char, (∀ c ∈ line, isBlank c)
      ∧ d.render = d.declaration ++ String.ofList (line ++ d.root.toNode.write d.indent 0)
      ∧ Reader.start.run line = .reading (.text line.reverse) [] [] := by
  obtain ⟨line, hblank, hline⟩ : ∃ line : List Char, (∀ c ∈ line, isBlank c)
      ∧ (if d.indent.isSome then "\n" else "") = String.ofList line := by
    cases d.indent with
    | none => exact ⟨[], by simp, rfl⟩
    | some unit =>
      refine ⟨['\n'], fun c hc => ?_, rfl⟩
      rw [List.mem_singleton.1 hc]
      rfl
  refine ⟨line, hblank, ?_, ?_⟩
  · rw [Document.render, hline, String.append_assoc, String.ofList_append]
  · rw [Reader.start, Reader.run_text (lt_not_mem_of_isBlank hblank), List.append_nil]

/-- **A document reads back**: its root, as it is joined, with its attributes as they are
written. -/
theorem read_render (d : Document) (hd : IsDeclaration d.declaration) (hi : IsIndent d.indent)
    (h : d.root.IsWellFormed) : read? d.render = some (d.root.joined written) := by
  obtain ⟨line, hblank, hrender, hline⟩ := exists_render_eq d
  rw [hrender, hd, String.toList_ofList, Reader.run_append, hline]
  exact Reader.root_run_write h hi line.reverse fun c hc => hblank c (List.mem_reverse.1 hc)

/-- The plain declaration is passed over. -/
theorem isDeclaration_plain : IsDeclaration plainDeclaration := by
  intro text
  rw [read?, String.toList_append]
  rfl

/-- The declaration of a document that stands alone is passed over. -/
theorem isDeclaration_standalone : IsDeclaration standaloneDeclaration := by
  intro text
  rw [read?, String.toList_append]
  rfl

end SpeakerHub.Markup
