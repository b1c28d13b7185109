import SpeakerHub.Text.Numeral

/-! # Blanks and references

The characters that markup treats as blank, the five characters that are written as entities, and
the references a reader resolves.

* **`escape`** — writes `<`, `>`, `&` and both quotes as entities.
* **`reference`** — writes any character by its decimal number.
* **`unescape`** — resolves the five entities and numbered references; anything else after `&` is
  refused. -/

namespace SpeakerHub.Markup

/-- Space, tab, line feed and carriage return. -/
def isBlank (c : Char) : Bool :=
  c == ' ' || c == '\t' || c == '\n' || c == '\r'

/-- Text without the blanks it begins with. -/
def trimStart (text : List Char) : List Char :=
  text.dropWhile isBlank

/-- Text without the blanks it ends with. -/
def trimEnd (text : List Char) : List Char :=
  (text.reverse.dropWhile isBlank).reverse

/-! ## Writing -/

/-- The written form of a character inside text and attribute values. -/
def escapeChar : Char → List Char
  | '<' => "&lt;".toList
  | '>' => "&gt;".toList
  | '&' => "&amp;".toList
  | '\'' => "&apos;".toList
  | '"' => "&quot;".toList
  | c => [c]

/-- The written form of text inside an element or an attribute value. -/
def escape (text : List Char) : List Char :=
  text.flatMap escapeChar

/-- A character written by its number. -/
def reference (c : Char) : List Char :=
  '&' :: '#' :: Nat.toDigits 10 c.toNat ++ [';']

/-! ## Resolving -/

/-- The character that a numbered reference stands for. No reference stands for the character
zero. -/
def charOfNumber? (n : Nat) : Option Char :=
  if n = 0 then none else Numeral.character? n

/-- The character that a reference stands for, given what it holds between `&` and `;`. -/
def resolve? : List Char → Option Char
  | ['l', 't'] => some '<'
  | ['g', 't'] => some '>'
  | ['a', 'm', 'p'] => some '&'
  | ['a', 'p', 'o', 's'] => some '\''
  | ['q', 'u', 'o', 't'] => some '"'
  | '#' :: 'x' :: digits => (Numeral.natural? 16 digits).bind charOfNumber?
  | '#' :: digits => (Numeral.natural? 10 digits).bind charOfNumber?
  | _ => none

/-- Resolves the references in the rest of a text, behind `done` (last character first) and inside
the reference `open?` (last character first), if one has begun. -/
def unescapeFrom (done : List Char) (open? : Option (List Char)) : List Char → Option (List Char)
  | [] => if open?.isNone then some done.reverse else none
  | c :: rest =>
    match open? with
    | none =>
      if c = '&' then unescapeFrom done (some []) rest
      else unescapeFrom (c :: done) none rest
    | some name =>
      if c = ';' then
        match resolve? name.reverse with
        | some d => unescapeFrom (d :: done) none rest
        | none => none
      else if c = '&' then none
      else unescapeFrom done (some (c :: name)) rest

/-- The text with its references resolved, or `none` if one of them is unknown or has no end. -/
def unescape (text : List Char) : Option (List Char) :=
  unescapeFrom [] none text

end SpeakerHub.Markup
