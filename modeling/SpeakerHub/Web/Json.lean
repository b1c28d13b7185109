/-! # JSON

Values as compact JSON text.

* **`Json`** — values; the fields of a record keep their order.
* **`Json.render`** — their text, without any blanks. -/

namespace SpeakerHub

/-- A value. -/
inductive Json where
  /-- Text. -/
  | text (content : String)
  /-- A natural number. -/
  | number (n : Nat)
  /-- Yes or no. -/
  | flag (b : Bool)
  /-- A list. -/
  | list (elements : List Json)
  /-- Fields with names. -/
  | fields (entries : List (String × Json))

namespace Json

/-- The written form of a character: quotes, backslashes and control characters are escaped. -/
def escapeChar (c : Char) : List Char :=
  match c with
  | '"' => ['\\', '"']
  | '\\' => ['\\', '\\']
  | '\n' => ['\\', 'n']
  | '\r' => ['\\', 'r']
  | '\t' => ['\\', 't']
  | '\x08' => ['\\', 'b']
  | '\x0c' => ['\\', 'f']
  | c =>
    if c < ' ' then
      ['\\', 'u', '0', '0', Nat.digitChar (c.toNat / 16), Nat.digitChar (c.toNat % 16)]
    else [c]

/-- A text in quotes. -/
def quote (content : String) : List Char :=
  '"' :: content.toList.flatMap escapeChar ++ ['"']

mutual

/-- The characters of a value. -/
def write : Json → List Char
  | .text content => quote content
  | .number n => Nat.toDigits 10 n
  | .flag b => if b then "true".toList else "false".toList
  | .list elements => '[' :: writeList elements ++ [']']
  | .fields entries => '\x7b' :: writeFields entries ++ ['\x7d']

/-- The characters of the elements of a list, with commas between them. -/
def writeList : List Json → List Char
  | [] => []
  | [v] => write v
  | v :: w :: rest => write v ++ ',' :: writeList (w :: rest)

/-- The characters of fields, with commas between them. -/
def writeFields : List (String × Json) → List Char
  | [] => []
  | [(name, v)] => quote name ++ ':' :: write v
  | (name, v) :: w :: rest => quote name ++ ':' :: write v ++ ',' :: writeFields (w :: rest)

end

/-- The text of a value. -/
def render (v : Json) : String :=
  String.ofList v.write

end Json

end SpeakerHub
