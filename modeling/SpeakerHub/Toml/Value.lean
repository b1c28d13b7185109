import SpeakerHub.Toml.Number
import SpeakerHub.Toml.Text

/-! # Values of TOML

* **`Toml.Value`** — values; a table remembers what has made it, because that decides who may add to
  it.
* **`Toml.Table.within`** — changes the table that a key leads to, and makes the tables on the way.
* **`Toml.Table.define`** — gives a key a value.
* **`Toml.value`** — reads a value. -/

namespace SpeakerHub.Toml

/-- What has made a table. -/
inductive Maker where
  /-- A header, or the document itself. -/
  | header
  /-- A header of a table inside of it. -/
  | implied
  /-- A key with several parts. -/
  | dotted
  /-- Braces. Nothing is added to it later. -/
  | braces
  deriving DecidableEq

/-- A value. -/
inductive Value where
  /-- Text. -/
  | string (content : String)
  /-- A whole number. -/
  | integer (n : Int)
  /-- A number with a fraction or an exponent, as written. -/
  | float (written : String)
  /-- Yes or no. -/
  | boolean (b : Bool)
  /-- A date, a time or both, as written. -/
  | dateTime (written : String)
  /-- A list in brackets. -/
  | array (elements : List Value)
  /-- A table. -/
  | table (maker : Maker) (entries : List (String × Value))
  /-- Tables whose headers stand in double brackets. -/
  | tables (elements : List (List (String × Value)))

/-- The keys of a table with their values. -/
abbrev Table := List (String × Value)

namespace Table

/-- The table with one value replaced where it stands, or added behind the others. -/
def insert (key : String) (value : Value) : Table → Table
  | [] => [(key, value)]
  | (k, v) :: rest => if k = key then (k, value) :: rest else (k, v) :: insert key value rest

/-- Changes the table that a key leads to from a table with some maker, if `f` allows it. Tables on
the way that are missing are made. Parts of a key in a line (`dotted`) do not lead into tables that
have a header; parts of a header do. Both lead into the last of several tables. -/
def within (dotted : Bool) (f : Maker → Table → Option Table) :
    List String → Maker → Table → Option Table
  | [], maker, table => f maker table
  | key :: path, _, table =>
    match table.lookup key with
    | none => do
      let maker := if dotted then .dotted else .implied
      return insert key (.table maker (← within dotted f path maker [])) table
    | some (.table maker inner) =>
      if maker = .braces ∨ dotted ∧ maker = .header then none
      else do return insert key (.table maker (← within dotted f path maker inner)) table
    | some (.tables elements) =>
      match elements.getLast? with
      | some last => do
        let last ← within dotted f path .header last
        return insert key (.tables (elements.dropLast ++ [last])) table
      | none => none
    | some _ => none

/-- Whether a table takes the last part of a key, given the parts in front of it. A table that was
made by keys of several parts takes only such keys, and any other table only keys of a single
part. -/
def takes (maker : Maker) (front : List String) : Bool :=
  (maker == .dotted) != front.isEmpty

/-- Gives a key of a line a value. The last part of the key is new in its table. -/
def define (path : List String) (value : Value) (maker : Maker) (table : Table) : Option Table := do
  let front := path.dropLast
  let last ← path.getLast?
  within true (fun maker table =>
    if takes maker front && (table.lookup last).isNone then some (table ++ [(last, value)])
    else none) front maker table

end Table

/-! ## Reading -/

open Scan

/-- A key, an equals sign, and a value. -/
def assignment (value : Scan Value) : Scan (List String × Value) := do
  let path ← key
  expect "="
  blanks
  return (path, ← value)

/-- A list in brackets. Its elements may stand on lines of their own, and a comma may follow the
last. -/
def array (value : Scan Value) : Scan Value := do
  expect "["
  loop (fun done => do
    gap
    if ← accept "]" then return .inr (.array done.reverse)
    let done := (← value) :: done
    gap
    if ← accept "," then return .inl done
    expect "]"
    return .inr (.array done.reverse)) []

/-- A table in braces, on one line. -/
def inlineTable (value : Scan Value) : Scan Value := do
  expect "\x7b"
  blanks
  if ← accept "\x7d" then return .table .braces []
  loop (fun table => do
    let (path, v) ← assignment value
    let table ← (Table.define path v .braces table : Option Table)
    blanks
    if ← accept "," then return .inl table
    expect "\x7d"
    return .inr (.table .braces table)) []

/-- A value that holds no other values. -/
def simpleValue : Scan Value := do
  match ← peek? with
  | some 't' => expect "true" *> pure (.boolean true)
  | some 'f' => expect "false" *> pure (.boolean false)
  | some '"' => .string <$> string
  | some '\'' => .string <$> string
  | _ =>
    -- A date begins like a float, and a float like an integer.
    (.dateTime <$> written dateTime) <|> (.float <$> written float) <|> (.integer <$> integer)

/-- A value with at most `depth` lists and tables inside of one another. -/
def value : Nat → Scan Value
  | 0 => simpleValue
  | depth + 1 => do
    match ← peek? with
    | some '[' => array (value depth)
    | some '\x7b' => inlineTable (value depth)
    | _ => simpleValue

end SpeakerHub.Toml
