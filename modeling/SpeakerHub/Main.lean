import SpeakerHub.CommandLine.Startup

/-! # The program

Starts the server on the files of the machine it runs on, up to the point where requests could be
taken. -/

namespace SpeakerHub

/-- Whether an action goes well. -/
def succeeds {α : Type} (action : IO α) : IO Bool := do
  try
    let _ ← action
    return true
  catch _ => return false

/-- The files of the machine. -/
def Files.onMachine : Files IO where
  makeDirectories path := if path.isEmpty then pure true else succeeds (IO.FS.createDirAll path)
  createFile path := succeeds (IO.FS.writeFile path "")
  readText path := do
    try
      return some (← IO.FS.readFile path)
    catch _ => return none

end SpeakerHub

open SpeakerHub in
/-- Starts the server. -/
def main (args : List String) : IO UInt32 := do
  match ← Startup.run Files.onMachine "homeport" args with
  | .ok (.help text) =>
    IO.print text
    return 0
  | .ok .detached => return 0
  | .ok (.ready ..) => return 0
  | .error failure =>
    IO.eprintln ("Error: " ++ failure.message)
    return 1
