import SpeakerHub.CommandLine.Settings
import SpeakerHub.Config

/-! # Startup

What happens between the command line and the first request. The steps are the same wherever files
are kept, so they are written for any machine that can make directories, create files and read them.

* **`Files`** — such a machine; **`Files.onDisk`** is one.
* **`Startup.run`** — the steps, and what they come to. -/

namespace SpeakerHub

open CommandLine

/-- A machine that keeps files under paths as they are written. -/
structure Files (m : Type → Type) where
  /-- Makes a path lead to a directory, and says whether it does. -/
  makeDirectories : String → m Bool
  /-- Creates an empty file, and says whether it is there. -/
  createFile : String → m Bool
  /-- The text in a file, if there is one. -/
  readText : String → m (Option String)

namespace Files

/-- The pieces of a written path without the empty ones and the dots at its end, last first. -/
def reversedPieces (text : String) : List String :=
  (text.splitOn "/").reverse.dropWhile fun piece => piece == "" || piece == "."

/-- The directory around what a written path leads to; empty for the directory that paths are
relative to. -/
def directoryOf (text : String) : String :=
  "/".intercalate ((reversedPieces text).drop 1).reverse

/-- Whether a written path can lead to a file: it ends in a name. -/
def endsInName (text : String) : Bool :=
  match (text.splitOn "/").getLast? with
  | some piece => piece != "" && piece != "." && piece != ".."
  | none => false

/-- Whether a step went well. -/
def went {α : Type} (f : Disk → Except Fault α × Disk) : StateM Disk Bool := fun d =>
  match f d with
  | (.ok _, d) => (true, d)
  | (.error _, d) => (false, d)

/-- The files on a disk. -/
def onDisk : Files (StateM Disk) where
  makeDirectories text := went (Disk.makeDirectories (Path.ofText text))
  createFile text :=
    if endsInName text then went (Disk.put (Path.ofText text) ByteArray.empty) else pure false
  readText text := do
    return ((← get).content (Path.ofText text)).toOption.bind String.fromUTF8?

end Files

namespace Startup

/-- Why the server does not start. -/
inductive Failure where
  /-- The command line is wrong. -/
  | misuse (m : Misuse)
  /-- The directory of the process file cannot be made. -/
  | pidDirectory (path : String)
  /-- The directory of the log file cannot be made. -/
  | logDirectory (path : String)
  /-- The log file cannot be created. -/
  | logFile (path : String)
  /-- The settings or the records cannot be used. -/
  | server (e : Error)

/-- A failure in words. -/
def Failure.message : Failure → String
  | misuse m => "Could not parse command line arguments:\n\n" ++ m.message
  | pidDirectory path => "Could not create pid directory `" ++ path ++ "`"
  | logDirectory path => "Could not create log directory `" ++ path ++ "`"
  | logFile path => "Could not create log file `" ++ path ++ "`"
  | server e => e.message

/-- What startup comes to. -/
inductive Outcome where
  /-- Only the help was wanted. -/
  | help (text : String)
  /-- The server goes on in the background. -/
  | detached
  /-- The server can take requests on a port. -/
  | ready (port : Nat) (config : Config)

/-- The port of the server, unless another one is asked for. -/
def defaultPort : Nat :=
  8000

section

variable {m : Type → Type} [Monad m] (files : Files m)

/-- A step that has to go well. -/
def require (step : m Bool) (failure : Failure) : ExceptT Failure m Unit := do
  unless ← step do throw failure

/-- The settings in a file, or the defaults without one. -/
def readConfig : Option String → ExceptT Failure m Config
  | none => pure {}
  | some text => do
    match Config.ofContent (Path.ofText text) (← files.readText text) with
    | .ok config => pure config
    | .error e => throw (.server e)

/-- The steps from a command line on. -/
def run (program : String) (args : List String) : ExceptT Failure m Outcome := do
  let settings ← match Settings.ofArguments args with
    | .ok settings => pure settings
    | .error misuse => throw (.misuse misuse)
  if settings.showHelp then
    return .help (Settings.usage ("Usage: " ++ program ++ " [options]"))
  let places := Places.ofSettings settings
  unless settings.foreground do
    let directory := Files.directoryOf places.pid
    require (files.makeDirectories directory) (.pidDirectory directory)
    return .detached
  if let some log := places.log then
    let directory := Files.directoryOf log
    require (files.makeDirectories directory) (.logDirectory directory)
    require (files.createFile log) (.logFile log)
  let config ← readConfig files places.config
  let accounts := places.data ++ "/accounts"
  require (files.makeDirectories accounts) (.server (.io (Path.ofText accounts)))
  return .ready (settings.port.getD defaultPort) config

end

end Startup

end SpeakerHub
