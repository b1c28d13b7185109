/-! # Options on a command line

Options have a long name, and some a short one of one character. Long names stand behind two
hyphens, short ones behind one and several of them together. Words that are no options are passed
over.

* **`CommandLine.Spec`** — an option.
* **`CommandLine.read`** — the options that are given, in their order.
* **`CommandLine.Misuse`** — what is wrong with a command line. -/

namespace SpeakerHub.CommandLine

/-- An option that can be given. -/
structure Spec where
  /-- The short name. -/
  short : Option Char
  /-- The long name. -/
  long : String
  /-- What stands for the value in the help text, if the option has a value. -/
  value : Option String
  /-- What the option is for. -/
  description : String

/-- What is wrong with a command line. -/
inductive Misuse where
  /-- An option lacks its value. -/
  | argumentMissing (name : String)
  /-- There is no such option. -/
  | unrecognized (name : String)
  /-- An option is given more than once. -/
  | duplicated (name : String)
  /-- An option has a value and takes none. -/
  | unexpectedArgument (name : String)
  deriving DecidableEq

/-- What is wrong, in words. -/
def Misuse.message : Misuse → String
  | argumentMissing name => "Argument to option '" ++ name ++ "' missing"
  | unrecognized name => "Unrecognized option: '" ++ name ++ "'"
  | duplicated name => "Option '" ++ name ++ "' given more than once"
  | unexpectedArgument name => "Option '" ++ name ++ "' does not take an argument"

/-- An option that is given: its long name and its value. -/
abbrev Given := String × Option String

/-- What a word of a command line says. -/
inductive Word where
  /-- Nothing about options. -/
  | free
  /-- No options follow. -/
  | stop
  /-- Some options. -/
  | options (given : List Given)
  /-- Some options, and one more that takes the next word for its value. -/
  | awaiting (given : List Given) (long name : String)

/-- The option with a short name. -/
def findShort? (specs : List Spec) (c : Char) : Option Spec :=
  specs.find? (·.short == some c)

/-- The option with a name behind two hyphens. A single character of ASCII is a short name there
too. -/
def findLong? (specs : List Spec) (name : String) : Option Spec :=
  match name.toList with
  | [c] => if c.toNat < 128 then findShort? specs c else specs.find? (·.long == name)
  | _ => specs.find? (·.long == name)

/-- Reads what stands behind two hyphens: a name, and a value behind an equals sign. -/
def readLong (specs : List Spec) (text : List Char) : Except Misuse Word := do
  let name := String.ofList (text.takeWhile (· != '='))
  let some spec := findLong? specs name | throw (.unrecognized name)
  match text.dropWhile (· != '='), spec.value with
  | [], none => return .options [(spec.long, none)]
  | [], some _ => return .awaiting [] spec.long name
  | _ :: _, none => throw (.unexpectedArgument name)
  | _ :: value, some _ => return .options [(spec.long, some (String.ofList value))]

/-- Reads what stands behind one hyphen: short names up to the first that takes a value, which is
all the rest or else the next word. -/
def readShort (specs : List Spec) (given : List Given) : List Char → Except Misuse Word
  | [] => return .options given
  | c :: rest => do
    let name := String.ofList [c]
    let some spec := findShort? specs c | throw (.unrecognized name)
    match spec.value, rest with
    | none, rest => readShort specs (given ++ [(spec.long, none)]) rest
    | some _, [] => return .awaiting given spec.long name
    | some _, rest => return .options (given ++ [(spec.long, some (String.ofList rest))])

/-- Reads a word. -/
def readWord (specs : List Spec) (word : String) : Except Misuse Word :=
  match word.toList with
  | ['-', '-'] => .ok .stop
  | '-' :: '-' :: text => readLong specs text
  | '-' :: c :: text => readShort specs [] (c :: text)
  | _ => .ok .free

/-- Reads all words behind the options that are given so far. -/
def readWords (specs : List Spec) (given : List Given) : List String → Except Misuse (List Given)
  | [] => .ok given
  | word :: rest =>
    match readWord specs word with
    | .error e => .error e
    | .ok .free => readWords specs given rest
    | .ok .stop => .ok given
    | .ok (.options more) => readWords specs (given ++ more) rest
    | .ok (.awaiting more long name) =>
      match rest with
      | [] => .error (.argumentMissing name)
      | value :: rest => readWords specs (given ++ more ++ [(long, some value)]) rest

/-- Reads a command line, on which every option is given at most once. -/
def read (specs : List Spec) (args : List String) : Except Misuse (List Given) := do
  let given ← readWords specs [] args
  match specs.find? fun spec => 1 < given.countP (·.1 == spec.long) with
  | some spec => throw (.duplicated spec.long)
  | none => return given

/-! ## Help -/

/-- The column in which descriptions begin. -/
def descriptionColumn : Nat :=
  24

/-- The greatest width of a line of a description. -/
def descriptionWidth : Nat :=
  54

/-- Breaks words into lines of at most some width, behind a line that has begun. -/
def fill (width : Nat) (line : String) : List String → List String
  | [] => if line.isEmpty then [] else [line]
  | word :: rest =>
    if line.isEmpty then fill width word rest
    else if line.length + 1 + word.length ≤ width then fill width (line ++ " " ++ word) rest
    else line :: fill width word rest

/-- The help for an option: its names, and its description on as many lines as it needs. -/
def Spec.help (s : Spec) : String :=
  let margin := String.ofList (List.replicate descriptionColumn ' ')
  let short := match s.short with
    | some c => "-" ++ String.ofList [c] ++ ", "
    | none => "    "
  let names := "    " ++ short ++ "--" ++ s.long ++ " " ++ s.value.getD ""
  let lead :=
    if names.length < descriptionColumn then
      names ++ String.ofList (List.replicate (descriptionColumn - names.length) ' ')
    else names ++ "\n" ++ margin
  lead ++ ("\n" ++ margin).intercalate (fill descriptionWidth "" (s.description.splitOn " "))

/-- The help for all options, below a line about the program. -/
def usage (specs : List Spec) (brief : String) : String :=
  brief ++ "\n\nOptions:\n" ++ "\n".intercalate (specs.map Spec.help) ++ "\n"

end SpeakerHub.CommandLine
