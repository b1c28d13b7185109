import SpeakerHub.Remote.Shell

/-! # What is exchanged with a shell

A shell answers as it likes, and each answer may depend on all calls before it. What a conversation
did is told by its exchanges, the calls in their order, each with the answer that the shell gave to
it.

* **`Exchange`** — a call with its answer.
* **`RunsFor`** — a command is run for each of some files.
* **`Shell.Exchanged`** — the answers are those of the shell; `Exchanged.append` — one exchange
  after the other.
* **`Conversation.Follows`** — whatever the shell answers, a conversation consists of exchanges for
  one host, and these follow a script.
* **`Follows.bind`**, **`Follows.callBind`** — conversations that go on after an answer. -/

namespace SpeakerHub

/-- A call and the answer to it. -/
structure Exchange where
  /-- What was asked of the shell. -/
  call : Call
  /-- What it answered. -/
  answer : Except Error String

namespace Exchange

/-- The call with the host that it is for. -/
def sent (host : String) (x : Exchange) : String × Call :=
  (host, x.call)

/-- Whether a call went well. -/
def Succeeded (x : Exchange) : Prop :=
  ∃ output, x.answer = .ok output

/-- The call went well if the answer is no error. -/
@[simp] theorem succeeded_ok (c : Call) (output : String) :
    Succeeded { call := c, answer := .ok output } :=
  ⟨output, rfl⟩

/-- The call did not go well if the answer is an error. -/
@[simp] theorem not_succeeded_error (c : Call) (e : Error) :
    ¬Succeeded { call := c, answer := .error e } := by
  rintro ⟨output, h⟩
  cases h

end Exchange

/-- **A command is run for each of some files**, in their order. -/
def RunsFor (command : String → String) (files : List String) (exchanges : List Exchange) : Prop :=
  exchanges.map (·.call) = files.map fun file => .run (command file)

namespace RunsFor

variable {command : String → String} {file : String} {files : List String} {x : Exchange}
variable {exchanges : List Exchange}

/-- For no files there is nothing to be run. -/
theorem nil : RunsFor command [] [] := rfl

/-- For one file more there is one exchange more. -/
theorem cons (hx : x.call = .run (command file)) (h : RunsFor command files exchanges) :
    RunsFor command (file :: files) (x :: exchanges) := by
  rw [RunsFor, List.map_cons, List.map_cons, hx, h]

/-- There are as many exchanges as files. -/
theorem length_eq (h : RunsFor command files exchanges) : exchanges.length = files.length := by
  have hlengths := congrArg List.length h
  rwa [List.length_map, List.length_map] at hlengths

/-- Every exchange is for one of the files. -/
theorem exists_file (h : RunsFor command files exchanges) (hx : x ∈ exchanges) :
    ∃ file ∈ files, x.call = .run (command file) := by
  have hcall : x.call ∈ exchanges.map (·.call) := List.mem_map_of_mem hx
  rw [h, List.mem_map] at hcall
  obtain ⟨file, hfile, heq⟩ := hcall
  exact ⟨file, hfile, heq.symm⟩

/-- For every file there is an exchange. -/
theorem exists_exchange (h : RunsFor command files exchanges) (hfile : file ∈ files) :
    ∃ x ∈ exchanges, x.call = .run (command file) := by
  have hcall : Call.run (command file) ∈ files.map fun file => Call.run (command file) :=
    List.mem_map_of_mem hfile
  rw [← h, List.mem_map] at hcall
  exact hcall

end RunsFor

variable {σ : Type}

/-- **A shell gives these answers** to calls for a host, one after the other, on its way from one
state to another. -/
inductive Shell.Exchanged (shell : Shell σ) (host : String) : σ → List Exchange → σ → Prop where
  /-- Nothing is asked. -/
  | nil (state : σ) : Exchanged shell host state [] state
  /-- A call is answered, and then the others. -/
  | cons {state state' : σ} {exchanges : List Exchange} (c : Call)
      (rest : Exchanged shell host (shell.answer host c state).2 exchanges state') :
      Exchanged shell host state
        ({ call := c, answer := (shell.answer host c state).1 } :: exchanges) state'

/-- **Exchanges one after the other** are exchanges. -/
theorem Shell.Exchanged.append {shell : Shell σ} {host : String} {first second third : σ}
    {xs ys : List Exchange} (h : shell.Exchanged host first xs second)
    (h' : shell.Exchanged host second ys third) : shell.Exchanged host first (xs ++ ys) third := by
  induction h with
  | nil state => exact h'
  | cons c rest ih => exact .cons c (ih h')

namespace Conversation

variable {α β : Type}

/-- What comes after a beginning goes on from where that ended. -/
theorem run_bind (c : Conversation σ α) (f : α → Conversation σ β) (session : Session σ) :
    (c >>= f).run session = (f (c.run session).1).run (c.run session).2 := rfl

/-- A call is answered by the shell, and is remembered. -/
theorem run_call (shell : Shell σ) (host : String) (c : Call) (session : Session σ) :
    (shell.call host c).run session
      = ((shell.answer host c session.state).1,
        { state := (shell.answer host c session.state).2,
          calls := session.calls ++ [(host, c)] }) := rfl

/-- **A conversation follows a script**: whatever the shell answers, it consists of exchanges for
one host that the script allows, given what it comes to. -/
def Follows (shell : Shell σ) (host : String) (script : List Exchange → α → Prop)
    (c : Conversation σ α) : Prop :=
  ∀ session, ∃ exchanges,
    shell.Exchanged host session.state exchanges (c.run session).2.state
      ∧ (c.run session).2.calls = session.calls ++ exchanges.map (Exchange.sent host)
      ∧ script exchanges (c.run session).1

namespace Follows

variable {shell : Shell σ} {host : String} {script : List Exchange → α → Prop}

/-- Nothing is asked to give a value. -/
theorem pure {a : α} (h : script [] a) : Follows shell host script (Pure.pure a) := by
  intro session
  exact ⟨[], .nil session.state, (List.append_nil session.calls).symm, h⟩

/-- A script that allows more. -/
theorem mono {c : Conversation σ α} {more : List Exchange → α → Prop}
    (h : Follows shell host script c) (hmore : ∀ xs a, script xs a → more xs a) :
    Follows shell host more c := by
  intro session
  obtain ⟨exchanges, hexchanged, hcalls, hscript⟩ := h session
  exact ⟨exchanges, hexchanged, hcalls, hmore exchanges _ hscript⟩

/-- **A conversation that goes on** follows a script if what comes after each beginning does. -/
theorem bind {c : Conversation σ α} {f : α → Conversation σ β} {more : List Exchange → β → Prop}
    (h : Follows shell host script c)
    (hf : ∀ xs a, script xs a → Follows shell host (fun ys b => more (xs ++ ys) b) (f a)) :
    Follows shell host more (c >>= f) := by
  intro session
  obtain ⟨xs, hxs, hcalls, hscript⟩ := h session
  -- What comes after starts where the beginning left the shell.
  obtain ⟨ys, hys, hcalls', hmore⟩ := hf xs _ hscript (c.run session).2
  refine ⟨xs ++ ys, hxs.append hys, ?_, hmore⟩
  calc (((c >>= f).run session).2).calls
      = (c.run session).2.calls ++ ys.map (Exchange.sent host) := hcalls'
    _ = session.calls ++ (xs ++ ys).map (Exchange.sent host) := by
      rw [hcalls, List.map_append, List.append_assoc]

/-- **A call** is one exchange. -/
theorem call (c : Call) : Follows shell host
    (fun exchanges answer => exchanges = [{ call := c, answer }]) (shell.call host c) := by
  intro session
  exact ⟨_, .cons c (.nil _), rfl, rfl⟩

/-- **A call and what is done with its answer.** -/
theorem callBind (c : Call) {f : Except Error String → Conversation σ α}
    (hf : ∀ answer, Follows shell host
      (fun exchanges a => script ({ call := c, answer } :: exchanges) a) (f answer)) :
    Follows shell host script (shell.call host c >>= f) := by
  refine (call c).bind fun xs answer hxs => ?_
  subst hxs
  exact hf answer

end Follows

end Conversation

end SpeakerHub
