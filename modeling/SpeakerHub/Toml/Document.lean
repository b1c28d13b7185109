import SpeakerHub.Toml.Value

/-! # Documents of TOML

A document is read line by line; a header says to which table the lines behind it belong.

* **`Toml.Document`** — the table so far, and the header that is in force.
* **`Toml.read?`** — the table that a text describes. -/

namespace SpeakerHub.Toml

open Scan

/-- A document on its way. -/
structure Document where
  /-- The header in force. -/
  header : List String
  /-- The whole table. -/
  table : Table

namespace Document

/-- The document with a key of a line added under the header in force. -/
def assign (d : Document) (path : List String) (v : Value) : Option Document := do
  let table ← Table.within false (Table.define path v) d.header .header d.table
  return { d with table }

/-- The document behind a header in brackets. The table is new, or has been implied so far. -/
def open? (d : Document) (path : List String) : Option Document := do
  let last ← path.getLast?
  let table ← Table.within false (fun _ table =>
    match table.lookup last with
    | none => some (table ++ [(last, .table .header [])])
    | some (.table .implied inner) => some (Table.insert last (.table .header inner) table)
    | some _ => none) path.dropLast .header d.table
  return { header := path, table }

/-- The document behind a header in double brackets, which begins another of several tables. -/
def append? (d : Document) (path : List String) : Option Document := do
  let last ← path.getLast?
  let table ← Table.within false (fun _ table =>
    match table.lookup last with
    | none => some (table ++ [(last, .tables [[]])])
    | some (.tables elements) => some (Table.insert last (.tables (elements ++ [[]])) table)
    | some _ => none) path.dropLast .header d.table
  return { header := path, table }

end Document

/-- A header line. -/
def headerLine (d : Document) : Scan Document := do
  expect "["
  let isOneOfSeveral ← accept "["
  let path ← key
  expect (if isOneOfSeveral then "]]" else "]")
  lineEnd
  ((if isOneOfSeveral then d.append? path else d.open? path) : Option Document)

/-- A line that gives a key a value. -/
def assignmentLine (d : Document) : Scan Document := do
  let (path, v) ← assignment (value (nestingLimit - 1))
  lineEnd
  (d.assign path v : Option Document)

/-- All lines. -/
def document : Scan Table := do
  let _ ← accept "\uFEFF"
  loop (fun d => do
    blanks
    match ← peek? with
    | none => return .inr d.table
    | some '[' => return .inl (← headerLine d)
    | some '#' =>
      lineEnd
      return .inl d
    | some '\n' =>
      lineEnd
      return .inl d
    | some '\r' =>
      lineEnd
      return .inl d
    | some _ => return .inl (← assignmentLine d)) { header := [], table := [] : Document }

/-- The table that a text describes, or `none` if it is not a document. -/
def read? (text : String) : Option Table :=
  document.all? text.toList

end SpeakerHub.Toml
