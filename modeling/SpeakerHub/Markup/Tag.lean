import SpeakerHub.Markup.Entity

/-! # Attributes of a tag

What follows the name in an opening tag, read as `key="value"` with either kind of quote. Blanks may
stand around the equals sign and need not stand between attributes.

* **`Tag.step`** — what one character does.
* **`Tag.attributes?`** — keys with their values as written, or `none` for a key without a quoted
  value and for a key that stands there twice. -/

namespace SpeakerHub.Markup

/-- Where a reader of attributes stands. Characters are kept last first. -/
inductive TagPlace where
  /-- Between attributes. -/
  | gap
  /-- In a key. -/
  | key (raw : List Char)
  /-- Behind a key, in front of the equals sign. -/
  | equals (key : List Char)
  /-- Behind the equals sign, in front of the quote. -/
  | quote (key : List Char)
  /-- In a value that ends with a quote. -/
  | value (key : List Char) (quote : Char) (raw : List Char)

/-- A reader of attributes: where it stands, and the attributes behind it, last first. -/
structure Tag where
  /-- The place. -/
  place : TagPlace
  /-- The attributes so far. -/
  found : List (List Char × List Char)

namespace Tag

/-- What one character does. A key is any run of characters from a character that is not blank up to
the equals sign or a blank. -/
def step (t : Tag) (c : Char) : Option Tag :=
  match t.place with
  | .gap => some (if isBlank c then t else { t with place := .key [c] })
  | .key raw =>
    if c = '=' then some { t with place := .quote raw.reverse }
    else if isBlank c then some { t with place := .equals raw.reverse }
    else some { t with place := .key (c :: raw) }
  | .equals key =>
    if isBlank c then some t
    else if c = '=' then some { t with place := .quote key }
    else none
  | .quote key =>
    if isBlank c then some t
    else if c = '"' ∨ c = '\'' then some { t with place := .value key c [] }
    else none
  | .value key quote raw =>
    if c = quote then
      if t.found.any (·.1 == key) then none
      else some { place := .gap, found := (key, raw.reverse) :: t.found }
    else some { t with place := .value key quote (c :: raw) }

/-- The attributes in what follows the name of a tag, in their order. -/
def attributes? (raw : List Char) : Option (List (List Char × List Char)) :=
  match raw.foldlM step { place := .gap, found := [] } with
  | some { place := .gap, found } => some found.reverse
  | _ => none

end Tag

end SpeakerHub.Markup
