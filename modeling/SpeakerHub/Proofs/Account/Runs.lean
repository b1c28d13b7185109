import SpeakerHub.Proofs.Account.Changes

/-! # Runs

A run is one deed after the other, requests and saves, each at some reading of the clock, going well
or not. A list that no deed of a run has stored is as it was. If the clock was ahead of the disk
whenever a list was stored, a list that was stored has a later token than the account had before.

* **`Deed`**, **`Event`** — what is done, and what became of it; **`Event.stored?`** — the list that
  it stored.
* **`Deed.leaves_or_stores`** — a deed leaves a list, or goes well and stores it.
* **`Run`** — one event after the other.
* **`Run.look_kept`** — lists that were not stored look as before.
* **`Run.resourceToken_lt`** — a list that was stored has a later token.
* **`Run.resourceToken_eq_iff`**, **`accountToken_eq_iff`** — which tokens are the same. -/

namespace SpeakerHub

/-! ## Deeds -/

/-- What can be done to the store. -/
inductive Deed where
  /-- A request for an account. -/
  | request (account : String) (op : Account.Operation)
  /-- To save a document. -/
  | save (save : Save)

namespace Deed

/-- Does it. -/
def run (s : Store) : Deed → Action Unit
  | request account op => do let _ ← op.run s account
  | save x => x.run s

/-- The list that is stored if it goes well. -/
def list? : Deed → Option (String × Resource)
  | request account op => op.list? account
  | save x => x.list?

/-- **Every deed** stores its list, and only if it goes well. -/
theorem storesList_run (deed : Deed) (s : Store) :
    Action.StoresList s deed.list? (deed.run s) := by
  cases deed with
  | request account op => exact (Account.storesList_run op).bindPure _
  | save x =>
    intro d
    rcases x.change s d with ⟨hresult, h⟩ | ⟨⟨e, hresult⟩, h⟩
    · exact ⟨some x, h, by rw [run, hresult]; rfl⟩
    · exact ⟨none, h, by rw [run, hresult]; rfl⟩

/-- **Every deed** leaves a list, of whatever account, or goes well and stores it. -/
theorem leaves_or_stores (deed : Deed) (s : Store) (resource : Resource) (d : Disk) :
    (∃ save?, s.Change d save? ((deed.run s).run d).2
      ∧ ∀ account : Identifier, save?.bind Save.list? ≠ some (account.text, resource))
    ∨ ∃ account : Identifier, deed.list? = some (account.text, resource)
      ∧ ((deed.run s).run d).1 = .ok () := by
  obtain ⟨save?, hchange, hlist⟩ := deed.storesList_run s d
  by_cases hother : ∀ account : Identifier, save?.bind Save.list? ≠ some (account.text, resource)
  · exact .inl ⟨save?, hchange, hother⟩
  · rw [not_forall_not] at hother
    obtain ⟨account, haccount⟩ := hother
    rw [hlist, Option.bind_eq_some_iff] at haccount
    obtain ⟨answer, hanswer, hdeed⟩ := haccount
    refine .inr ⟨account, hdeed, ?_⟩
    cases hresult : ((deed.run s).run d).1 with
    | error e =>
      rw [hresult] at hanswer
      cases hanswer
    | ok u => rfl

/-- A request that answers with what was written, as a deed. -/
theorem run_written {s : Store} {account : String} {op : Account.Operation}
    {action : Action Account.Written}
    (h : op.run s account = action >>= fun w => pure (Account.Answer.written w)) (d : Disk) :
    ((request account op).run s).run d
      = (((action.run d).1.map Account.Answer.written).map fun _ => (), (action.run d).2) := by
  have hanswer := Action.run_bind_pure action Account.Answer.written d
  refine (Action.run_bind_pure _ _ d).trans ?_
  rw [h, hanswer]

end Deed

/-! ## Runs -/

/-- A deed that was done. -/
structure Event where
  /-- The reading of the clock. -/
  clock : Int
  /-- The deed. -/
  deed : Deed
  /-- How it ended. -/
  outcome : Except Error Unit

/-- The list that an event stored. -/
def Event.stored? (e : Event) : Option (String × Resource) :=
  e.outcome.toOption.bind fun _ => e.deed.list?

/-- **A run**: one event after the other. The clock is ahead of the disk whenever a list is
stored. -/
inductive Run (s : Store) (d : Disk) : List Event → Disk → Prop where
  /-- Nothing was done. -/
  | start : Run s d [] d
  /-- One event more. -/
  | event {events : List Event} {e : Event} {d₁ d₂ : Disk} (before : Run s d events d₁)
      (hrun : (e.deed.run s).run (d₁.atTime e.clock) = (e.outcome, d₂))
      (hahead : e.stored? ≠ none → (d₁.atTime e.clock).IsAhead) : Run s d (events ++ [e]) d₂

/-- **An event** changes the store as it says. -/
theorem Event.change {e : Event} {s : Store} {d d' : Disk}
    (hrun : (e.deed.run s).run d = (e.outcome, d')) :
    ∃ save?, s.Change d save? d' ∧ save?.bind Save.list? = e.stored? := by
  have h := e.deed.storesList_run s d
  rw [hrun] at h
  exact h

namespace Run

variable {s : Store} {account : Identifier} {resource : Resource} {events : List Event}
variable {d d' : Disk}

/-- A run of one event. -/
theorem single {e : Event} (hahead : (d.atTime e.clock).IsAhead)
    (houtcome : ((e.deed.run s).run (d.atTime e.clock)).1 = e.outcome) :
    Run s d [e] ((e.deed.run s).run (d.atTime e.clock)).2 :=
  .event .start (Prod.ext houtcome rfl) fun _ => hahead

/-- **A list that was not stored** looks as before. -/
theorem look_kept (h : Run s d events d') (hshort : (s.accountPath account).IsShort)
    (hno : ∀ e ∈ events, e.stored? ≠ some (account.text, resource)) :
    d'.look (s.resourcePath account resource) = d.look (s.resourcePath account resource) := by
  induction h with
  | start => rfl
  | event before hrun hahead ih =>
    obtain ⟨save?, hchange, hlist⟩ := Event.change hrun
    have hother := hno _ (List.mem_append_right _ List.mem_cons_self)
    rw [← hlist] at hother
    exact (hchange.look_kept hshort hother).trans
      (ih fun e he => hno e (List.mem_append_left _ he))

/-- The directory of an account stays. -/
theorem hasDirectory (h : Run s d events d') (hd : d.HasDirectory (s.accountPath account)) :
    d'.HasDirectory (s.accountPath account) := by
  induction h with
  | start => exact hd
  | event before hrun hahead ih =>
    obtain ⟨save?, hchange, -⟩ := Event.change hrun
    exact hchange.hasDirectory ih

/-- **A list that was stored** has a later token than any list of the account had before. -/
theorem resourceToken_lt (h : Run s d events d') (hshort : (s.accountPath account).IsShort)
    (hstored : ∃ e ∈ events, e.stored? = some (account.text, resource)) :
    ∃ t', s.resourceToken account resource d' = .ok t'
      ∧ ∀ r t, s.resourceToken account r d = .ok t → t.value < t'.value := by
  -- For all lists of the account at once, since the last event may be for another one of them.
  induction h generalizing resource with
  | start => simp at hstored
  | @event events e d₁ d₂ before hrun hahead ih =>
    obtain ⟨save?, hchange, hlist⟩ := Event.change hrun
    by_cases hlast : e.stored? = some (account.text, resource)
    · -- It was stored just now, when the clock was ahead of the disk.
      have hnow := hahead (by simp [hlast])
      rw [hlast] at hlist
      obtain ⟨save, rfl, hsave⟩ := Option.bind_eq_some_iff.1 hlist
      refine ⟨_, Account.resourceToken_saved hchange hsave, fun r t ht => ?_⟩
      -- What the account had before is at most as late as what it has now, just before the event.
      by_cases hbefore : ∃ e ∈ events, e.stored? = some (account.text, r)
      · obtain ⟨t', ht', hlt⟩ := ih hbefore
        exact (hlt r t ht).trans (Store.token_lt_now hnow ht')
      · have hno : ∀ e ∈ events, e.stored? ≠ some (account.text, r) :=
          fun e he heq => hbefore ⟨e, he, heq⟩
        have hsame : s.resourceToken account r d₁ = .ok t :=
          (Store.token_congr (before.look_kept hshort hno)).trans ht
        exact Store.token_lt_now hnow hsame
    · -- It was stored before and has not been touched since.
      obtain ⟨e', he', hstored⟩ := hstored
      have hmem : e' ∈ events := by
        rcases List.mem_append.1 he' with hmem | hmem
        · exact hmem
        · rw [List.mem_singleton.1 hmem] at hstored
          exact absurd hstored hlast
      obtain ⟨t', ht', hlt⟩ := ih ⟨e', hmem, hstored⟩
      rw [← hlist] at hlast
      exact ⟨t', (Store.token_congr (hchange.look_kept hshort hlast)).trans ht', hlt⟩

variable {t : Token}

/-- **The token of a list** is the same as long as the list is not stored. -/
theorem resourceToken_eq_iff (h : Run s d events d') (hshort : (s.accountPath account).IsShort)
    (ht : s.resourceToken account resource d = .ok t) :
    s.resourceToken account resource d' = .ok t
      ↔ ∀ e ∈ events, e.stored? ≠ some (account.text, resource) := by
  constructor
  · intro ht' e he hstored
    obtain ⟨u, hu, hlt⟩ := h.resourceToken_lt hshort ⟨e, he, hstored⟩
    rw [ht'] at hu
    cases hu
    exact absurd (hlt resource t ht) (Nat.lt_irrefl _)
  · intro hno
    exact (Store.token_congr (h.look_kept hshort hno)).trans ht

/-- **The token of an account** is the same as long as none of its lists is stored. -/
theorem accountToken_eq_iff (h : Run s d events d') (hshort : (s.accountPath account).IsShort)
    (ht : s.accountToken account d = .ok t) :
    s.accountToken account d' = .ok t
      ↔ ∀ e ∈ events, ∀ r, e.stored? ≠ some (account.text, r) := by
  obtain ⟨p, r, c, hp, hr, hc, rfl⟩ := Store.accountToken_eq_ok_iff.1 ht
  constructor
  · -- The token of the list that was stored is later than that of any list before.
    intro ht' e he resource hstored
    obtain ⟨u, hu, hlt⟩ := h.resourceToken_lt hshort ⟨e, he, hstored⟩
    have hle := Store.resourceToken_le_accountToken ht' hu
    have hp' := hlt _ _ hp
    have hr' := hlt _ _ hr
    have hc' := hlt _ _ hc
    simp only [Token.latest] at hle
    omega
  · intro hno
    have hkept (resource : Resource) : s.resourceToken account resource d'
        = s.resourceToken account resource d :=
      Store.token_congr (h.look_kept hshort fun e he => hno e he resource)
    rw [Store.accountToken_eq_ok_iff, hkept, hkept, hkept]
    exact ⟨p, r, c, hp, hr, hc, rfl⟩

end Run

end SpeakerHub
