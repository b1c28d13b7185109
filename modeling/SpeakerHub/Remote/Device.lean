import SpeakerHub.Remote.Shell

/-! # A device behind a shell

A device that keeps files and understands the few commands that are sent to it. Calls that begin in
a certain way can be made to fail, or to lose the connection.

* **`RemoteDevice`** — its files and how it misbehaves.
* **`RemoteDevice.shell`** — what it answers. -/

namespace SpeakerHub

/-- A device that keeps files. -/
structure RemoteDevice where
  /-- Whether it can be reached at all. -/
  reachable : Bool := false
  /-- The files with their contents. -/
  files : List (String × String) := []
  /-- Calls that begin so are turned down. -/
  failing : List String := []
  /-- Calls that begin so lose the connection. -/
  dropping : List String := []

namespace RemoteDevice

/-- The content of a file. -/
def file? (d : RemoteDevice) (path : String) : Option String :=
  d.files.lookup path

/-- The files with one of them written. -/
def write (path content : String) : List (String × String) → List (String × String)
  | [] => [(path, content)]
  | (p, c) :: rest => if p = path then (p, content) :: rest else (p, c) :: write path content rest

/-- Whether a call begins in one of some ways. -/
def beginsWith (starts : List String) (c : Call) : Bool :=
  starts.any fun start => start.toList.isPrefixOf c.shown.toList

/-- What stands in a command line behind its first word, if that is the given one. -/
def argument? (word command : String) : Option String :=
  if (word ++ " ").toList.isPrefixOf command.toList then
    some (String.ofList (command.toList.drop (word.length + 1)))
  else none

/-- The file that a command line looks for. -/
def soughtFile? (command : String) : Option String := do
  let rest ← argument? "[ -e" command
  if " ]".toList.isSuffixOf rest.toList then
    some (String.ofList (rest.toList.take (rest.length - 2)))
  else none

/-- What a device does with a call that reaches it: what it writes, or why it turns the call
down. -/
def perform (d : RemoteDevice) : Call → Except String String × RemoteDevice
  | .upload content path => (.ok "", { d with files := write path content d.files })
  | .run command =>
    match argument? "cat" command with
    | some path =>
      match d.file? path with
      | some content => (.ok content, d)
      | none => (.error "No such file or directory", d)
    | none =>
      match soughtFile? command with
      | some path => (if (d.file? path).isSome then .ok "" else .error "exit status 1", d)
      | none =>
        match argument? "touch" command with
        | some path =>
          if (d.file? path).isSome then (.ok "", d)
          else (.ok "", { d with files := write path "" d.files })
        | none => (.ok "", d)

/-- The error of a call that is turned down. -/
def rejection (host : String) (c : Call) (reason : String) : Error :=
  .commandFailed { host, command := c.shown, reason, output := "sh: " ++ reason }

/-- What a device answers to a call. -/
def answer (host : String) (c : Call) (d : RemoteDevice) : Except Error String × RemoteDevice :=
  if !d.reachable || beginsWith d.dropping c then
    (.error (.unreachable host "connection refused"), d)
  else if beginsWith d.failing c then (.error (rejection host c "exit status 1"), d)
  else
    match d.perform c with
    | (.ok output, d) => (.ok output, d)
    | (.error reason, d) => (.error (rejection host c reason), d)

/-- The shell of a device. -/
def shell : Shell RemoteDevice :=
  { answer }

end RemoteDevice

end SpeakerHub
