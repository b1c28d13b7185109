import SpeakerHub.Disk.Path
import SpeakerHub.Identifier

/-! # Errors

What can go wrong, by its cause, and how it is put into words.

* **`Error`** — the causes.
* **`Error.message`** — the words. -/

namespace SpeakerHub

/-- A command that a device turned down. -/
structure CommandFailure where
  /-- The device. -/
  host : String
  /-- The command line. -/
  command : String
  /-- What it ended with. -/
  reason : String
  /-- What it wrote. -/
  output : String
  deriving DecidableEq

/-- A cause of failure. -/
inductive Error where
  /-- The disk refused to do something with a path. -/
  | io (path : Path)
  /-- The configuration cannot be understood. -/
  | configuration
  /-- Nothing is stored under a path. -/
  | notFound (path : Path)
  /-- What is stored under a path cannot be understood. -/
  | corrupted (path : Path)
  /-- The body of a request cannot be understood. -/
  | malformedRequest
  /-- A text is no identifier. -/
  | invalidIdentifier (text : String)
  /-- A text is no number of a preset. -/
  | invalidPresetNumber (text : String)
  /-- A speaker did not say who it is. -/
  | identityQuery (target reason : String)
  /-- A device is not to be reached. -/
  | unreachable (host reason : String)
  /-- A device turned a command down. -/
  | commandFailed (failure : CommandFailure)
  /-- No place for the mark of remote services could be written. -/
  | remoteServicesUnavailable (locations : List String)
  deriving DecidableEq

namespace Error

/-- A list of plain texts, quoted and in brackets. -/
def quotedList (texts : List String) : String :=
  "[" ++ ", ".intercalate (texts.map fun t => "\"" ++ t ++ "\"") ++ "]"

/-- The words for an error. What the disk or a reader would add to them is left out. -/
def message : Error → String
  | io path => "Filesystem error for `" ++ path.text ++ "`"
  | configuration => "Could not deserialize configuration"
  | notFound path => "Resource not found: `" ++ path.text ++ "`"
  | corrupted path => "Could not parse `" ++ path.text ++ "`"
  | malformedRequest => "Could not parse request body"
  | invalidIdentifier text => "Invalid identifier: `" ++ text ++ "`"
  | invalidPresetNumber text => "Invalid preset number: `" ++ text ++ "`"
  | identityQuery target reason =>
    "Could not query device info from `" ++ target ++ "`: " ++ reason
  | unreachable host reason => "Could not connect to `" ++ host ++ "`: " ++ reason
  | commandFailed f =>
    "Command `" ++ f.command ++ "` failed on `" ++ f.host ++ "`: " ++ f.reason
  | remoteServicesUnavailable locations =>
    "Could not enable remote services in any of the locations: " ++ quotedList locations

end Error

/-- A text as an identifier, or the error that it is none. -/
def Identifier.ofText (text : String) : Except Error Identifier :=
  match ofText? text with
  | some i => .ok i
  | none => .error (.invalidIdentifier text)

end SpeakerHub
