import SpeakerHub.Proofs.Migration.Lasting
import SpeakerHub.Proofs.Store.Changes

/-! # Requests that show something

Whoever asks to be shown something changes nothing by it: not the disk, and of speakers only what
comes of looking at their files. So the same is shown again, at any other time, as long as the
speakers are as they were.

* **`Endpoint.verb`**, **`Route.mem_methods_of_find`** — what is asked for can be done with the
  method of the request.
* **`Conversation.IgnoresPast`** — what was called before does not matter to a conversation.
* **`Handler.OnlyLooks`** — nothing is changed by a handler, and it gives the same again.
* **`Server.onlyLooks_answer`**, **`onlyLooks_respond`** — so it is wherever something is shown.
* **`showing_changes_nothing`** — what this is for the world. -/

namespace SpeakerHub

/-! ## What is asked for -/

/-- What can be done at an endpoint. -/
def Endpoint.verb : Endpoint → Verb
  | .powerOn | .addDevice .. | .putPreset .. | .addRecent .. | .migrate .. | .remoteServices ..
  | .scan => .post
  | .removeDevice .. => .delete
  | .banner | .sourceProviders | .softwareUpdate | .providerSettings .. | .account .. | .presets ..
  | .recents .. | .devices | .summary .. => .get

/-- No method stands for two verbs. -/
theorem Verb.eq_get {verb : Verb} {method : String} (hget : method ∈ get.methods)
    (h : method ∈ verb.methods) : verb = get := by
  cases verb with
  | get => rfl
  | post | delete => revert method; decide

namespace Route

/-- What is offered, if it is an endpoint at all, is offered for a verb that fits. -/
def Offers (verb : Verb) (offered : Except Failure.Rejection Endpoint) : Prop :=
  ∀ e, offered = .ok e → e.verb = verb

/-- An endpoint is offered for its verb. -/
theorem Offers.ok {verb : Verb} {e : Endpoint} (h : e.verb = verb) : Offers verb (.ok e) :=
  fun _ he => Except.ok.inj he ▸ h

/-- An endpoint is offered once a parameter is read. -/
theorem Offers.parameter {verb : Verb} {name raw : String}
    {f : String → Except Failure.Rejection Endpoint} (h : ∀ value, Offers verb (f value)) :
    Offers verb (Route.parameter name raw >>= f) := by
  intro e he
  cases hvalue : Route.parameter name raw with
  | error rejection =>
    -- A parameter that cannot be read leaves nothing to offer.
    rw [hvalue] at he
    cases he
  | ok value =>
    rw [hvalue] at he
    exact h value e he

/-- **Whatever is offered at a path** is offered for a verb that fits. -/
theorem offers_of_mem_choices (segments : List String) :
    ∀ route ∈ choices segments, Offers route.1 route.2 := by
  unfold choices
  split
  -- At every path there are endpoints, each behind its parameters.
  all_goals
    repeat' first
      | exact List.forall_mem_nil _
      | refine List.forall_mem_cons.2 ⟨?_, ?_⟩
      | refine .parameter fun value => ?_
      | exact .ok rfl

/-- **What is asked for** can be done with the method of the request. -/
theorem mem_methods_of_find {request : Request} {e : Endpoint} (h : find request = .ok e) :
    request.method ∈ e.verb.methods := by
  rw [find] at h
  split at h
  · cases h
  next routes hroutes =>
    split at h
    · cases h
    · cases h
    next verb endpoint hfound =>
      cases h
      rw [offers_of_mem_choices _ _ (List.mem_of_find?_eq_some hfound) e rfl]
      simpa using List.find?_some hfound

end Route

variable {σ α β : Type}

/-! ## Conversations that can be held again -/

namespace Conversation

/-- **What was called before** does not matter to a conversation. -/
def IgnoresPast (c : Conversation σ α) : Prop :=
  ∀ session calls, (c.run { session with calls }).1 = (c.run session).1
    ∧ (c.run { session with calls }).2.state = (c.run session).2.state

namespace IgnoresPast

/-- Nothing is asked to give a value. -/
theorem pure (a : α) : IgnoresPast (Pure.pure a : Conversation σ α) :=
  fun _ _ => ⟨rfl, rfl⟩

/-- A shell answers to its state. -/
theorem call (shell : Shell σ) (host : String) (c : Call) : IgnoresPast (shell.call host c) :=
  fun _ _ => ⟨rfl, rfl⟩

/-- A conversation that goes on. -/
theorem bind {c : Conversation σ α} {f : α → Conversation σ β} (h : c.IgnoresPast)
    (hf : ∀ a, (f a).IgnoresPast) : (c >>= f).IgnoresPast := by
  intro session calls
  obtain ⟨hvalue, hstate⟩ := h session calls
  -- What comes after begins in the same state, after other calls.
  have hafter := hf (c.run session).1 (c.run session).2 (c.run { session with calls }).2.calls
  rw [← hstate] at hafter
  rw [run_bind, run_bind, hvalue]
  exact hafter

end IgnoresPast

end Conversation

namespace Migration

open Conversation

variable (shell : Shell σ) (host : String)

/-- The file with the addresses is read again. -/
theorem ignoresPast_readConfig : (readConfig shell host).IgnoresPast := by
  refine (IgnoresPast.call shell host _).bind fun answer => ?_
  cases answer with
  | error reason =>
    refine (IgnoresPast.call shell host _).bind fun live => ?_
    cases live <;> exact .pure _
  | ok text =>
    by_cases htext : text.isEmpty
    · -- Nothing was read, so the speaker may not be there.
      simp only [htext]
      refine (IgnoresPast.call shell host _).bind fun live => ?_
      cases live <;> exact .pure _
    · simp only [htext]
      exact .pure _

/-- Markers are looked for again. -/
theorem ignoresPast_probeMarkers (all : List String) :
    (probeMarkers shell host all).IgnoresPast := by
  induction all with
  | nil => exact .pure _
  | cons marker rest ih =>
    refine (IgnoresPast.call shell host _).bind fun answer => ?_
    cases answer with
    | ok output => exact ih.bind fun state => .pure _
    | error e =>
      cases e with
      | commandFailed failure => exact ih
      | _ => exact .pure _

/-- **A summary is made again.** -/
theorem ignoresPast_summary (s : Store) (d : Disk) (speakers : Speakers) (target : String) :
    (summary shell host s d speakers target).IgnoresPast := by
  refine (ignoresPast_readConfig shell host).bind fun config => ?_
  cases config.isOnline with
  | true => exact (ignoresPast_probeMarkers shell host markers).bind fun state => .pure _
  | false => exact .pure _

end Migration

/-! ## Handlers that only look -/

/-- The same world at another time and after other calls. -/
def World.later (w : World σ) (clock : Int) (calls : List (String × Call)) : World σ :=
  { disk := w.disk.atTime clock, session := { w.session with calls } }

/-- **A handler only looks.** -/
structure Handler.OnlyLooks (shell : Shell σ) (h : Handler σ α) : Prop where
  /-- The disk stays as it is. -/
  disk : ∀ w, (h.run w).2.disk = w.disk
  /-- A speaker is only looked at. -/
  exchanges : ∀ w, ∃ host exchanges,
    shell.Exchanged host w.session.state exchanges (h.run w).2.session.state
      ∧ (h.run w).2.session.calls = w.session.calls ++ exchanges.map (Exchange.sent host)
      ∧ ∀ x ∈ exchanges, x.call ∈ Migration.lookingCalls
  /-- It gives the same again. -/
  again : ∀ w clock calls, (h.run (w.later clock calls)).1 = (h.run w).1

namespace Handler.OnlyLooks

variable {shell : Shell σ}

/-- A value needs no look. -/
theorem pure (a : α) : OnlyLooks shell (Pure.pure a : Handler σ α) where
  disk _ := rfl
  exchanges w := ⟨"", [], .nil _, (List.append_nil _).symm, fun x hx => by cases hx⟩
  again _ _ _ := rfl

/-- A look at the disk, if its time does not matter. -/
theorem look {f : Disk → α} (hf : ∀ d clock, f (d.atTime clock) = f d) :
    OnlyLooks shell (Handler.look f) where
  disk _ := rfl
  exchanges w := ⟨"", [], .nil _, (List.append_nil _).symm, fun x hx => by cases hx⟩
  again w clock _ := hf w.disk clock

/-- What was seen is put into another form. -/
theorem map {h : Handler σ α} (hlooks : OnlyLooks shell h) (f : α → β) :
    OnlyLooks shell (h >>= fun a => Pure.pure (f a)) where
  disk := hlooks.disk
  exchanges := hlooks.exchanges
  again w clock calls := congrArg f (hlooks.again w clock calls)

/-- A request that is turned down is not looked at. -/
theorem withPart {part : Except Failure.Rejection α} {handle : α → Handler σ Response}
    (h : ∀ a, OnlyLooks shell (handle a)) : OnlyLooks shell (Server.withPart part handle) := by
  cases part with
  | error rejection => exact .pure _
  | ok a => exact h a

end Handler.OnlyLooks

namespace Server

open Handler

/-- **A summary** only looks. -/
theorem onlyLooks_summary (server : Server σ) (host : String) (target? : Option String) :
    OnlyLooks server.shell (server.summary host target?) where
  disk _ := rfl
  exchanges w := by
    let target := Migration.resolveTarget server.config.publicUrl target?
    obtain ⟨exchanges, hexchanged, hcalls, read, liveness, probes, heq, hconsistent⟩ :=
      Migration.follows_summary server.shell host server.store w.disk server.speakers target
        w.session
    exact ⟨host, exchanges, hexchanged, hcalls, heq ▸ hconsistent.1.looks⟩
  again w clock calls := by
    let target := Migration.resolveTarget server.config.publicUrl target?
    exact (Migration.ignoresPast_summary server.shell host server.store w.disk server.speakers
      target w.session calls).1

/-- **What is shown at an endpoint** is only looked at. -/
theorem onlyLooks_answer (server : Server σ) (request : Request) {e : Endpoint}
    (hget : e.verb = .get) : OnlyLooks server.shell (server.answer request e) := by
  cases e with
  | powerOn | addDevice | putPreset | addRecent | migrate | remoteServices | scan
  | removeDevice => cases hget
  | banner => exact .pure _
  | providerSettings account => exact .pure _
  | sourceProviders => exact .withPart fun presented => .pure _
  | softwareUpdate => exact .withPart fun presented => .pure _
  | account account =>
    exact .withPart fun presented => (OnlyLooks.look fun _ _ => rfl).map _
  | presets account =>
    exact .withPart fun presented => (OnlyLooks.look fun _ _ => rfl).map _
  | recents account =>
    exact .withPart fun presented => (OnlyLooks.look fun _ _ => rfl).map _
  | devices => exact (OnlyLooks.look fun _ _ => rfl).map _
  | summary host => exact .withPart fun target? => (server.onlyLooks_summary host target?).map _

/-- **The response to a request that something be shown** is made by looking. -/
theorem onlyLooks_respond (server : Server σ) {request : Request}
    (hget : request.method ∈ Verb.get.methods) :
    OnlyLooks server.shell (server.respond request) := by
  rw [respond]
  cases hfind : Route.find request with
  | error response => exact (OnlyLooks.pure response).map _
  | ok e =>
    have hmethod := Route.mem_methods_of_find hfind
    exact (server.onlyLooks_answer request (Verb.eq_get hget hmethod)).map _

end Server

/-- If looking leaves a shell as it is, a look leaves it as it is. -/
theorem Shell.Exchanged.state_eq {shell : Shell σ} {host : String} {state state' : σ}
    {exchanges : List Exchange} (h : shell.Exchanged host state exchanges state')
    (hlooks : ∀ x ∈ exchanges, ∀ state, (shell.answer host x.call state).2 = state) :
    state' = state := by
  induction h with
  | nil state => rfl
  | cons c rest ih =>
    rw [ih fun x hx => hlooks x (List.mem_cons_of_mem _ hx)]
    exact hlooks _ List.mem_cons_self _

/-- **A request that something be shown changes nothing**, at any path, with any query, headers and
body, whatever is on the disk, whatever speakers there are, and whatever is answered:

* The disk stays as it is.
* All that is asked of speakers is to read the file with the addresses, to show that the speaker is
  there, and whether markers are there.
* At any other time, and after any other calls, the same is shown again on the disk that is left, if
  the shell is in the same state.
* If looking leaves the shell in its state, that is so in the world that is left. -/
theorem showing_changes_nothing (server : Server σ) (request : Request)
    (hget : request.method ∈ Verb.get.methods) (w : World σ) :
    let response := ((server.respond request).run w).1
    let after := ((server.respond request).run w).2
    after.disk = w.disk
      ∧ (∃ host exchanges,
        server.shell.Exchanged host w.session.state exchanges after.session.state
          ∧ after.session.calls = w.session.calls ++ exchanges.map (Exchange.sent host)
          ∧ ∀ x ∈ exchanges, x.call ∈ Migration.lookingCalls)
      ∧ (∀ clock calls, ((server.respond request).run
          { disk := after.disk.atTime clock, session := { state := w.session.state, calls } }).1
        = response)
      ∧ ((∀ host, ∀ c ∈ Migration.lookingCalls, ∀ state,
          (server.shell.answer host c state).2 = state) →
        ∀ clock, ((server.respond request).run
          { disk := after.disk.atTime clock, session := after.session }).1 = response) := by
  intro response after
  have hlooks := server.onlyLooks_respond hget
  have hdisk : after.disk = w.disk := hlooks.disk w
  have hexchanges := hlooks.exchanges w
  have hagain (clock : Int) (calls : List (String × Call)) : ((server.respond request).run
      { disk := after.disk.atTime clock, session := { state := w.session.state, calls } }).1
        = response := by
    rw [hdisk]
    exact hlooks.again w clock calls
  refine ⟨hdisk, hexchanges, hagain, fun hsteady clock => ?_⟩
  obtain ⟨host, exchanges, hexchanged, -, hcalls⟩ := hexchanges
  have hstate : after.session.state = w.session.state :=
    hexchanged.state_eq fun x hx state => hsteady host x.call (hcalls x hx) state
  have hsame := hagain clock after.session.calls
  rwa [← hstate] at hsame

/-- A summary of a speaker is shown again. -/
theorem summary_shown_again :
    let server : Server RemoteDevice :=
      { store := { directory := Path.ofTexts ["data"] }, config := {}, shell := RemoteDevice.shell,
        speakers := Speaker.nobody }
    let request : Request :=
      { method := "GET", target := Target.ofText "/setup/devices/10.0.0.8/summary", headers := [],
        body := ByteArray.empty }
    let speaker : RemoteDevice := { reachable := true, files := [("/etc/remote_services", "")] }
    let w : World RemoteDevice := { disk := { clock := 1000 }, session := { state := speaker } }
    let after := ((server.respond request).run w).2
    after.disk = w.disk
      ∧ ((server.respond request).run
          { disk := after.disk.atTime 2000, session := after.session }).1
        = ((server.respond request).run w).1 := by
  intro server request speaker w after
  have hshown := showing_changes_nothing server request (by decide) w
  have hsteady (host : String) (c : Call) (hc : c ∈ Migration.lookingCalls)
      (d : RemoteDevice) : (RemoteDevice.shell.answer host c d).2 = d :=
    (Migration.looks_of_mem_lookingCalls c hc).answer host d
  exact ⟨hshown.1, hshown.2.2.2 hsteady 2000⟩

end SpeakerHub
