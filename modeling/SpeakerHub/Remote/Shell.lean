import SpeakerHub.Error

/-! # Remote shells

A shell takes one call after the other. What it does with a call may depend on all calls before it,
so a shell is a machine with a state of its own.

* **`Call`** — a command line, or new content for a file.
* **`Shell`** — what a machine answers to calls.
* **`Session`** — a machine in use, and what was asked of it. -/

namespace SpeakerHub

/-- Something asked of a shell. -/
inductive Call where
  /-- Runs a command line and gives what it writes. -/
  | run (command : String)
  /-- Gives a file new content. -/
  | upload (content path : String)
  deriving DecidableEq

/-- How a call is shown. -/
def Call.shown : Call → String
  | run command => command
  | upload _ path => "upload " ++ path

/-- What a machine with states `σ` answers to the calls that reach it for a host. -/
structure Shell (σ : Type) where
  /-- The answer to a call, and the state after it. -/
  answer : String → Call → σ → Except Error String × σ

/-- A machine in use. -/
structure Session (σ : Type) where
  /-- The state of the machine. -/
  state : σ
  /-- The calls so far, with the hosts they were for. -/
  calls : List (String × Call) := []

/-- A conversation with a machine. -/
abbrev Conversation (σ : Type) := StateM (Session σ)

namespace Shell

variable {σ : Type}

/-- Sends a call, and remembers it. -/
def call (shell : Shell σ) (host : String) (c : Call) : Conversation σ (Except Error String) :=
  fun session =>
    let (answer, state) := shell.answer host c session.state
    (answer, { state, calls := session.calls ++ [(host, c)] })

/-- Runs a command line. -/
def run (shell : Shell σ) (host command : String) : Conversation σ (Except Error String) :=
  shell.call host (.run command)

/-- Gives a file new content. -/
def upload (shell : Shell σ) (host content path : String) :
    Conversation σ (Except Error String) :=
  shell.call host (.upload content path)

/-- A shell that is never reached, for one reason. -/
def unreachable (reason : String) : Shell σ :=
  { answer := fun host _ state => (.error (.unreachable host reason), state) }

end Shell

end SpeakerHub
