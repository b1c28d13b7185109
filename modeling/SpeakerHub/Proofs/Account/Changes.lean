import SpeakerHub.Proofs.Account.Isolation
import SpeakerHub.Proofs.Store.Changes

/-! # What requests change

A request is refused, or it reads, saves one document and answers. What it saves and what it answers
is known from what it read.

* **`Account.Stores`** — how storing a list ends; **`stores`** — so does whatever changes a list.
* **`Account.PutsPreset`**, **`AddsRecent`** — how these requests end; **`putsPreset`**,
  **`addsRecent`** — there is no other way.
* **`Action.StoresList`** — an action that stores one list at most; **`Operation.list?`**,
  **`Account.storesList_run`** — every request is such, for its own list. -/

namespace SpeakerHub

namespace Account

/-! ## Storing a list -/

/-- **How storing a list ends** once it is known what to save and what to answer. -/
inductive Stores (s : Store) (save : Save) (body : String) (d : Disk) :
    Except Error Written → Disk → Prop where
  /-- The list cannot be saved. -/
  | failed {e : Error} {d' : Disk} (h : s.Fails d d') : Stores s save body d (.error e) d'
  /-- It is saved, and the answer carries the time of the clock. -/
  | done {d' : Disk} (h : s.Change d (some save) d') :
      Stores s save body d (.ok { token := .ofNanoseconds d.now, body }) d'

section

variable {s : Store} {account : Identifier} {resource : Resource} {d : Disk}

/-- A list that was saved has the time of the clock as its token. -/
theorem resourceToken_saved {save : Save} {d' : Disk} (h : s.Change d (some save) d')
    (hlist : save.list? = some (account.text, resource)) :
    s.resourceToken account resource d' = .ok (.ofNanoseconds d.now) :=
  Store.token_of_look (h.look_saved hlist)

/-- **Changing a list**, once the request is understood, ends with nothing read and nothing changed,
or in one of these ways. -/
theorem stores {α : Type} (s : Store) (account : Identifier) (resource : Resource)
    (stored : Disk → Except Error (List α)) (save : List Source → Int → List α → Save)
    (hlist : ∀ sources clock xs, (save sources clock xs).list? = some (account.text, resource))
    (body : List Source → Int → List α → String) (d : Disk) :
    let action : Action Written := do
      let sources ← Action.look (storedSources s account)
      let clock := (← get).clock
      let xs ← Action.look stored
      (save sources clock xs).run s
      return {
        token := ← Action.look (s.resourceToken account resource)
        body := body sources clock xs }
    (∃ e, action.run d = (.error e, d))
      ∨ ∃ sources xs, storedSources s account d = .ok sources ∧ stored d = .ok xs
        ∧ Stores s (save sources d.clock xs) (body sources d.clock xs) d
          (action.run d).1 (action.run d).2 := by
  intro action
  rcases hsources : storedSources s account d with e | sources
  · exact .inl ⟨e, Action.run_look_bind_error hsources _⟩
  rcases hxs : stored d with e | xs
  · refine .inl ⟨e, ?_⟩
    rw [Action.run_look_bind_ok hsources, Action.run_get_bind, Action.run_look_bind_error hxs]
  refine .inr ⟨sources, xs, rfl, rfl, ?_⟩
  rw [Action.run_look_bind_ok hsources, Action.run_get_bind, Action.run_look_bind_ok hxs]
  -- What is left is to save, and to look at the token.
  rcases (save sources d.clock xs).saved_or_fails s d with ⟨hresult, h⟩ | ⟨⟨e, hresult⟩, h⟩
  · rw [Action.run_bind_ok (Prod.ext hresult rfl),
      Action.run_look_bind_ok (resourceToken_saved h (hlist sources d.clock xs))]
    exact .done h
  · rw [Action.run_bind_error (Prod.ext hresult rfl)]
    exact .failed h

end

/-! ## Presets and recents -/

/-- **How giving a button something to play ends.** -/
inductive PutsPreset (s : Store) (account device button body : String) (d : Disk) :
    Except Error Written → Disk → Prop where
  /-- It is refused before anything is saved. -/
  | refused (e : Error) : PutsPreset s account device button body d (.error e) d
  /-- The changed list is stored. -/
  | stored {number : Nat} {request : PresetRequest} {id a : Identifier} {sources : List Source}
      {stored : List Preset} {r : Except Error Written} {d' : Disk}
      (hnumber : Numeral.unsigned? UInt32.size button = some number)
      (hrequest : PresetRequest.ofText body = .ok request)
      (hdevice : Identifier.ofText device = .ok id)
      (haccount : Identifier.ofText account = .ok a)
      (hsources : storedSources s a d = .ok sources)
      (hstored : storedPresets s a d = .ok stored)
      (h : let after := withPreset number request sources (Timestamp.ofMilliseconds d.clock) stored
        Stores s (.presets account after.2) (Dialect.document (Dialect.preset sources after.1)) d
          r d') :
      PutsPreset s account device button body d r d'

/-- **Giving a button something to play** ends in one of these ways. -/
theorem putsPreset (s : Store) (account device button body : String) (d : Disk) :
    PutsPreset s account device button body d
      ((putPreset s account device button body).run d).1
      ((putPreset s account device button body).run d).2 := by
  unfold putPreset
  split
  case h_2 => exact .refused _
  case h_1 number hnumber =>
  rcases hrequest : PresetRequest.ofText body with e | request
  · exact .refused e
  rcases hdevice : Identifier.ofText device with e | id
  · exact .refused e
  rcases haccount : Identifier.ofText account with e | a
  · exact .refused e
  simp only [Action.ok_bind]
  obtain rfl := Identifier.ofText_eq_ok_iff.1 haccount
  have hsave (xs : List Preset) : s.savePresets a xs = (Save.presets a.text xs).run s := by
    rw [Save.run, ofText_text]
    rfl
  simp only [hsave]
  let after (sources : List Source) (clock : Int) (stored : List Preset) :=
    withPreset number request sources (Timestamp.ofMilliseconds clock) stored
  have hstores := stores s a .presets (storedPresets s a)
    (fun sources clock stored => .presets a.text (after sources clock stored).2)
    (fun _ _ _ => rfl)
    (fun sources clock stored =>
      Dialect.document (Dialect.preset sources (after sources clock stored).1)) d
  rcases hstores with ⟨e, h⟩ | ⟨sources, stored, hsources, hstored, h⟩
  · rw [h]
    exact .refused e
  · exact .stored hnumber hrequest hdevice haccount hsources hstored h

/-- **How recording that something was played ends.** -/
inductive AddsRecent (s : Store) (account device body : String) (d : Disk) :
    Except Error Written → Disk → Prop where
  /-- It is refused before anything is saved. -/
  | refused (e : Error) : AddsRecent s account device body d (.error e) d
  /-- The changed list is stored. -/
  | stored {request : RecentRequest} {id a : Identifier} {sources : List Source}
      {stored : List Recent} {r : Except Error Written} {d' : Disk}
      (hrequest : RecentRequest.ofText body = .ok request)
      (hdevice : Identifier.ofText device = .ok id)
      (haccount : Identifier.ofText account = .ok a)
      (hsources : storedSources s a d = .ok sources)
      (hstored : storedRecents s a d = .ok stored)
      (h : let seconds := (Timestamp.seconds? request.lastPlayedAt.toList).getD (d.clock / 1000)
        let after := withRecent id request sources seconds stored
        Stores s (.recents account after.2) (Dialect.document (Dialect.recent sources after.1)) d
          r d') :
      AddsRecent s account device body d r d'

/-- **Recording that something was played** ends in one of these ways. -/
theorem addsRecent (s : Store) (account device body : String) (d : Disk) :
    AddsRecent s account device body d
      ((addRecent s account device body).run d).1
      ((addRecent s account device body).run d).2 := by
  unfold addRecent
  rcases hrequest : RecentRequest.ofText body with e | request
  · exact .refused e
  rcases hdevice : Identifier.ofText device with e | id
  · exact .refused e
  rcases haccount : Identifier.ofText account with e | a
  · exact .refused e
  simp only [Action.ok_bind]
  obtain rfl := Identifier.ofText_eq_ok_iff.1 haccount
  have hsave (xs : List Recent) : s.saveRecents a xs = (Save.recents a.text xs).run s := by
    rw [Save.run, ofText_text]
    rfl
  simp only [hsave]
  let after (sources : List Source) (clock : Int) (stored : List Recent) :=
    withRecent id request sources
      ((Timestamp.seconds? request.lastPlayedAt.toList).getD (clock / 1000)) stored
  have hstores := stores s a .recents (storedRecents s a)
    (fun sources clock stored => .recents a.text (after sources clock stored).2)
    (fun _ _ _ => rfl)
    (fun sources clock stored =>
      Dialect.document (Dialect.recent sources (after sources clock stored).1)) d
  rcases hstores with ⟨e, h⟩ | ⟨sources, stored, hsources, hstored, h⟩
  · rw [h]
    exact .refused e
  · exact .stored hrequest hdevice haccount hsources hstored h

end Account

/-! ## Which list is stored -/

namespace Action

variable {α β : Type}

/-- To give something else instead changes nothing. -/
theorem run_bind_pure (a : Action α) (g : α → β) (d : Disk) :
    (a >>= fun x => pure (g x)).run d = ((a.run d).1.map g, (a.run d).2) := by
  rcases hrun : a.run d with ⟨e | x, d'⟩
  · exact run_bind_error hrun _
  · exact run_bind_ok hrun _

/-- A run that is in order has a value. -/
theorem exists_of_isOk {r : Except Error α × Disk} (h : r.1.isOk = true) :
    ∃ x d, r = (.ok x, d) := by
  obtain ⟨e | x, d⟩ := r
  · cases h
  · exact ⟨x, d, rfl⟩

/-- **An action that only looks.** -/
def Looks (a : Action α) : Prop :=
  ∀ d, (a.run d).2 = d

/-- A look is one. -/
theorem looks_look (f : Disk → Except Error α) : Looks (look f) :=
  fun _ => rfl

/-- To give a value is one. -/
theorem looks_pure (x : α) : Looks (pure x : Action α) :=
  fun _ => rfl

/-- What is only looked at afterwards changes nothing more. -/
theorem Looks.run_bind {f : α → Action β} (hf : ∀ x, Looks (f x)) (a : Action α) (d : Disk) :
    ((a >>= f).run d).2 = (a.run d).2 := by
  rcases hrun : a.run d with ⟨e | x, d'⟩
  · rw [run_bind_error hrun]
  · rw [run_bind_ok hrun, hf x d']

/-- Looks one after the other. -/
theorem Looks.bind {a : Action α} {f : α → Action β} (ha : Looks a) (hf : ∀ x, Looks (f x)) :
    Looks (a >>= f) :=
  fun d => (run_bind hf a d).trans (ha d)

/-- **An action that stores a list** if it goes well, or none at all: all else that it saves is a
device. -/
def StoresList (s : Store) (list? : Option (String × Resource)) (a : Action α) : Prop :=
  ∀ d, ∃ save?, s.Change d save? (a.run d).2
    ∧ save?.bind Save.list? = (a.run d).1.toOption.bind fun _ => list?

namespace StoresList

variable {s : Store} {list? : Option (String × Resource)}

/-- An action that only looks stores nothing. -/
theorem ofLooks {a : Action α} (h : Looks a) : StoresList s none a := by
  intro d
  rw [h d]
  exact ⟨none, .nothing, (Option.bind_fun_none _).symm⟩

/-- What is known beforehand stores nothing. -/
theorem bindExcept {x : Except Error α} {f : α → Action β} (hf : ∀ v, StoresList s list? (f v)) :
    StoresList s list? (liftM x >>= f) := by
  cases x with
  | error e => exact fun d => ⟨none, .nothing, rfl⟩
  | ok v => exact hf v

/-- A look beforehand stores nothing. -/
theorem bindLook {g : Disk → Except Error α} {f : α → Action β}
    (hf : ∀ v, StoresList s list? (f v)) : StoresList s list? (look g >>= f) := by
  intro d
  rcases h : g d with e | v
  · rw [run_look_bind_error h]
    exact ⟨none, .nothing, rfl⟩
  · rw [run_look_bind_ok h]
    exact hf v d

/-- What is only looked at afterwards stores nothing. -/
theorem bind {a : Action α} {f : α → Action β} (ha : StoresList s none a)
    (hf : ∀ x, Looks (f x)) : StoresList s none (a >>= f) := by
  intro d
  rw [Looks.run_bind hf]
  obtain ⟨save?, h, hlist⟩ := ha d
  exact ⟨save?, h, by rw [hlist, Option.bind_fun_none, Option.bind_fun_none]⟩

/-- What is answered does not matter. -/
theorem bindPure {a : Action α} (ha : StoresList s list? a) (g : α → β) :
    StoresList s list? (a >>= fun x => pure (g x)) := by
  intro d
  obtain ⟨save?, h, hlist⟩ := ha d
  rw [run_bind_pure]
  refine ⟨save?, h, hlist.trans ?_⟩
  cases (a.run d).1 <;> rfl

/-- A device is no list. -/
theorem saveDevice (s : Store) (account id : Identifier) (device : Device) :
    StoresList s none (s.saveDevice account id device) := by
  intro d
  have hsave : (Save.device account.text id.text device).run s
      = s.saveDevice account id device := by
    rw [Save.run, Account.ofText_text, Account.ofText_text]
    rfl
  rw [← hsave, Option.bind_fun_none]
  rcases (Save.device account.text id.text device).change s d with ⟨-, h⟩ | ⟨-, h⟩
  · exact ⟨_, h, rfl⟩
  · exact ⟨_, h, rfl⟩

end StoresList

end Action

namespace Account

variable {s : Store} {account : String}

/-- What is stored as a list is the list, if it is stored. -/
theorem Stores.change {save : Save} {body : String} {d d' : Disk} {r : Except Error Written}
    (h : Stores s save body d r d') : ∃ save?, s.Change d save? d'
      ∧ save?.bind Save.list? = r.toOption.bind fun _ => save.list? := by
  cases h with
  | failed h => exact ⟨none, h.change, rfl⟩
  | done h => exact ⟨some save, h, rfl⟩

/-- Giving a button something to play stores the presets. -/
theorem storesList_putPreset (device button body : String) :
    Action.StoresList s (some (account, .presets)) (putPreset s account device button body) := by
  intro d
  have hcases := putsPreset s account device button body d
  generalize (putPreset s account device button body).run d = result at hcases ⊢
  obtain ⟨r, d'⟩ := result
  cases hcases with
  | refused e => exact ⟨none, .nothing, rfl⟩
  | stored _ _ _ _ _ _ h => exact h.change

/-- Recording that something was played stores the recents. -/
theorem storesList_addRecent (device body : String) :
    Action.StoresList s (some (account, .recents)) (addRecent s account device body) := by
  intro d
  have hcases := addsRecent s account device body d
  generalize (addRecent s account device body).run d = result at hcases ⊢
  obtain ⟨r, d'⟩ := result
  cases hcases with
  | refused e => exact ⟨none, .nothing, rfl⟩
  | stored _ _ _ _ _ h => exact h.change

/-- Registering a device stores no list. -/
theorem storesList_addDevice (body : String) :
    Action.StoresList s none (addDevice s account body) := by
  unfold addDevice
  refine .bindExcept fun request => .bindExcept fun id => .bindExcept fun a => ?_
  refine .bindLook fun known => ?_
  refine .bind (.saveDevice s a id _) fun _ => ?_
  refine .bind (Action.looks_look _) fun presets => .bind (Action.looks_look _) fun recents => ?_
  refine .bind (Action.looks_look _) fun sources => .bind (Action.looks_look _) fun token => ?_
  exact Action.looks_pure _

/-- Removing a device stores no list. -/
theorem storesList_removeDevice (device : String) :
    Action.StoresList s none (removeDevice s account device) := by
  unfold removeDevice
  refine .bindExcept fun a => .bindExcept fun id d => ?_
  exact ⟨none, s.change_removeDevice a id d, (Option.bind_fun_none _).symm⟩

/-- Filing a speaker that was found stores no list. -/
theorem storesList_record (found : Discovery.Found) :
    Action.StoresList s none (Discovery.record s account found) := by
  unfold Discovery.record
  refine .bindExcept fun a => .bindExcept fun id => .bindLook fun known => ?_
  exact .saveDevice s a id _

/-! ## Requests -/

/-- The list that a request stores if it goes well. -/
def Operation.list? (account : String) : Operation → Option (String × Resource)
  | putPreset .. => some (account, .presets)
  | addRecent .. => some (account, .recents)
  | _ => none

/-- **Requests** store their list, and only if they go well. -/
theorem storesList_run (op : Operation) :
    Action.StoresList s (op.list? account) (op.run s account) := by
  cases op with
  | full presented => exact (Action.StoresList.ofLooks (Action.looks_look _)).bindPure _
  | presets presented => exact (Action.StoresList.ofLooks (Action.looks_look _)).bindPure _
  | recents presented => exact (Action.StoresList.ofLooks (Action.looks_look _)).bindPure _
  | putPreset device button body => exact (storesList_putPreset device button body).bindPure _
  | addRecent device body => exact (storesList_addRecent device body).bindPure _
  | addDevice body => exact (storesList_addDevice body).bindPure _
  | removeDevice device => exact (storesList_removeDevice device).bindPure _
  | record found => exact (storesList_record found).bindPure _

end Account

end SpeakerHub
