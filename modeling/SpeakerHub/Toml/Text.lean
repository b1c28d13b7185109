import SpeakerHub.Text.Scan

/-! # Characters, strings and keys of TOML

Basic strings stand in double quotes and have escapes, literal strings stand in single quotes and
have none; three quotes begin a string that may go over several lines.

* **`Toml.blanks`**, **`Toml.comment`**, **`Toml.lineEnd`** — what stands between the parts of a
  document.
* **`Toml.string`** — any of the four kinds of string.
* **`Toml.key`** — a key, that is one or more parts with points between them. -/

namespace SpeakerHub.Toml

open Scan

/-! ## Lines -/

/-- Space and tab. -/
def isBlank (c : Char) : Bool :=
  c == ' ' || c == '\t'

/-- Whether a character may stand in comments and strings: tab, and everything that is no control
character of ASCII. -/
def isPlain (c : Char) : Bool :=
  c == '\t' || (' ' ≤ c && c != '\x7f')

/-- Blanks, if there are any. -/
def blanks : Scan Unit := do
  let _ ← takeWhile isBlank

/-- A line break. -/
def lineBreak : Scan Unit := do
  unless ← accept "\n" do expect "\r\n"

/-- A comment up to the end of its line. -/
def comment : Scan Unit := do
  expect "#"
  let _ ← takeWhile isPlain

/-- The rest of a line, in which only a comment may stand. -/
def lineEnd : Scan Unit := do
  blanks
  let _ ← optional comment
  unless (← get).isEmpty do lineBreak

/-- Blanks, line breaks and comments, if there are any. -/
def gap : Scan Unit :=
  loop (fun () => do
    blanks
    match ← peek? with
    | some '#' =>
      comment
      lineBreak
      return .inl ()
    | some '\n' =>
      lineBreak
      return .inl ()
    | some '\r' =>
      lineBreak
      return .inl ()
    | _ => return .inr ()) ()

/-! ## Strings -/

/-- A character written by a fixed number of hexadecimal digits. -/
def codePoint (digits : Nat) : Scan Char := do
  let text ← get
  let written := text.take digits
  unless written.length = digits do failure
  set (text.drop digits)
  let number ← (Numeral.natural? 16 written : Option Nat)
  (Numeral.character? number : Option Char)

/-- What stands behind a backslash. -/
def escaped : Scan Char := do
  match ← next with
  | 'b' => return '\x08'
  | 't' => return '\t'
  | 'n' => return '\n'
  | 'f' => return '\x0c'
  | 'r' => return '\r'
  | '"' => return '"'
  | '\\' => return '\\'
  | 'u' => codePoint 4
  | 'U' => codePoint 8
  | _ => failure

/-- A backslash at the end of a line, with all blanks and line breaks behind it. -/
def joinedLines : Scan Unit := do
  expect "\\"
  blanks
  lineBreak
  loop (fun () => do
    blanks
    match ← optional lineBreak with
    | some () => return .inl ()
    | none => return .inr ()) ()

/-- Up to two quotes in front of the three that end a string, and those three. -/
def closing (quote : Char) : Scan (List Char) := do
  let run := (← get).takeWhile (· == quote)
  let inside := min (run.length - 3) 2
  unless 3 ≤ run.length do failure
  set ((← get).drop (inside + 3))
  return List.replicate inside quote

/-- The rest of a string in double quotes. -/
def basicString : Scan String := do
  expect "\""
  loop (fun done => do
    match ← next with
    | '"' => return .inr (String.ofList done.reverse)
    | '\\' => return .inl ((← escaped) :: done)
    | c => if isPlain c then return .inl (c :: done) else failure) []

/-- A string in single quotes. -/
def literalString : Scan String := do
  expect "'"
  let content ← takeWhile fun c => isPlain c && c != '\''
  expect "'"
  return String.ofList content

/-- A string between three quotes of a kind, with escapes or without. Line breaks are read as line
feeds, and one that comes first does not count. -/
def longString (quote : Char) (hasEscapes : Bool) : Scan String := do
  expect (String.ofList [quote, quote, quote])
  let _ ← optional lineBreak
  loop (fun done => do
    match ← optional (closing quote) with
    | some quotes => return .inr (String.ofList (quotes ++ done).reverse)
    | none =>
      match ← optional lineBreak with
      | some () => return .inl ('\n' :: done)
      | none =>
        let isEscape := hasEscapes && (← peek?) == some '\\'
        match ← if isEscape then optional joinedLines else pure none with
        | some () => return .inl done
        | none =>
          let c ← next
          if isEscape then return .inl ((← escaped) :: done)
          else if isPlain c then return .inl (c :: done)
          else failure) []

/-- Any string. -/
def string : Scan String :=
  longString '"' true <|> basicString <|> longString '\'' false <|> literalString

/-! ## Keys -/

/-- Whether a character may stand in a key without quotes. -/
def isBare (c : Char) : Bool :=
  c.isAlphanum || c == '-' || c == '_'

/-- One part of a key. -/
def keyPart : Scan String := do
  match ← peek? with
  | some '"' => basicString
  | some '\'' => literalString
  | _ =>
    let part ← takeWhile isBare
    if part.isEmpty then failure
    return String.ofList part

/-- How deep keys and values may be nested. -/
def nestingLimit : Nat :=
  80

/-- The parts of a key. -/
def key : Scan (List String) := do
  let parts ← loop (fun parts => do
    blanks
    let parts := (← keyPart) :: parts
    blanks
    if ← accept "." then return .inl parts
    return .inr parts.reverse) []
  if nestingLimit ≤ parts.length then failure
  return parts

end SpeakerHub.Toml
