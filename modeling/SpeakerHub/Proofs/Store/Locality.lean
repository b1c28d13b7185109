import SpeakerHub.Proofs.Disk.Subtree
import SpeakerHub.Proofs.Store.Writing

/-! # Actions that keep to a directory

An action is local to a directory if all its changes lie there and what it does depends on nothing
else. Actions made of local ones are local, and what the store does for an account is local to the
directory of the account.

* **`Action.IsLocal`** — such an action; **`IsLocal.bind`**, **`bindExcept`**, **`bindGet`** — one
  after the other.
* **`Store.isLocal_write`**, **`isLocal_removeDevice`** — the changes of the store.
* **`Store.presets_eq`** to **`allDevices_eq`** — what the store gives for an account depends on its
  directory. -/

namespace SpeakerHub

namespace Action

/-! ## Actions that only fail -/

/-- **An action that only fails**, always in one way, and changes nothing. -/
def Fails {α : Type} (a : Action α) : Prop :=
  ∃ e, ∀ d, a.run d = (.error e, d)

namespace Fails

variable {α β : Type}

/-- What is known to be an error fails. -/
theorem ofExcept {x : Except Error α} {e : Error} (h : x = .error e) :
    Fails (liftM x : Action α) :=
  ⟨e, fun d => by rw [h]; rfl⟩

/-- To throw an error is to fail. -/
theorem throw (e : Error) : Fails (MonadExcept.throw e : Action α) :=
  ⟨e, fun _ => rfl⟩

/-- A look that fails on every disk alike fails. -/
theorem look {f : Disk → Except Error α} {e : Error} (h : ∀ d, f d = .error e) :
    Fails (Action.look f) :=
  ⟨e, fun d => congrArg (·, d) (h d)⟩

/-- **Whatever would come after a failure**, the whole fails. -/
theorem bind {a : Action α} (h : a.Fails) (f : α → Action β) : Fails (a >>= f) := by
  obtain ⟨e, he⟩ := h
  exact ⟨e, fun d => run_bind_error (he d) f⟩

/-- What fails after all that may be known beforehand fails. -/
theorem bindExcept {x : Except Error α} {f : α → Action β} (hf : ∀ v, Fails (f v)) :
    Fails (liftM x >>= f) := by
  cases x with
  | error e => exact (ofExcept rfl).bind f
  | ok v => exact hf v

end Fails

/-! ## Actions that are local -/

/-- **An action that keeps to what is below a path**: it changes nothing else, and on disks that
look alike there it ends alike. -/
structure IsLocal {α : Type} (p : Path) (a : Action α) : Prop where
  /-- It changes nothing else. -/
  confined : ∀ d, Disk.Confined p d (a.run d).2
  /-- It ends alike. -/
  alike : ∀ {d d'}, Disk.Agree p d d' →
    (a.run d).1 = (a.run d').1 ∧ Disk.Agree p (a.run d).2 (a.run d').2

namespace IsLocal

variable {α β : Type} {p : Path}

/-- What is known beforehand is local. -/
theorem ofExcept (x : Except Error α) : IsLocal p (liftM x : Action α) where
  confined d := .refl p d
  alike h := ⟨rfl, h⟩

/-- An action that gives a value is local. -/
theorem pure (x : α) : IsLocal p (Pure.pure x : Action α) where
  confined d := .refl p d
  alike h := ⟨rfl, h⟩

/-- An action that only fails is local. -/
theorem throw (e : Error) : IsLocal p (MonadExcept.throw e : Action α) where
  confined d := .refl p d
  alike h := ⟨rfl, h⟩

/-- A look at the disk is local if it depends on what is below the path. -/
theorem look {f : Disk → Except Error α} (hf : ∀ {d d'}, Disk.Agree p d d' → f d = f d') :
    IsLocal p (Action.look f) where
  confined d := .refl p d
  alike h := ⟨hf h, h⟩

/-- **Local actions one after the other** are local. -/
theorem bind {a : Action α} {f : α → Action β} (ha : IsLocal p a) (hf : ∀ x, IsLocal p (f x)) :
    IsLocal p (a >>= f) where
  confined d := by
    have hfirst := ha.confined d
    rcases hrun : a.run d with ⟨e | x, d₁⟩ <;> rw [hrun] at hfirst
    · rw [run_bind_error hrun]
      exact hfirst
    · rw [run_bind_ok hrun]
      exact hfirst.trans ((hf x).confined d₁)
  alike {d d'} h := by
    obtain ⟨hresult, hagree⟩ := ha.alike h
    -- The first action answers alike, so both go on, or neither does.
    rcases hrun : a.run d with ⟨e | x, d₁⟩ <;> rcases hrun' : a.run d' with ⟨e' | x', d₁'⟩ <;>
      rw [hrun, hrun'] at hresult hagree <;> cases hresult
    · rw [run_bind_error hrun, run_bind_error hrun']
      exact ⟨rfl, hagree⟩
    · rw [run_bind_ok hrun, run_bind_ok hrun']
      exact (hf x).alike hagree

/-- An action that goes on with what is known beforehand is local if it is for what is known. -/
theorem bindExcept {x : Except Error α} {f : α → Action β}
    (hf : ∀ v, x = .ok v → IsLocal p (f v)) : IsLocal p (liftM x >>= f) := by
  cases x with
  | error e => exact ofExcept (.error e)
  | ok v => exact hf v rfl

/-- An action that reads the clock is local. -/
theorem bindGet {f : Disk → Action β} (hf : ∀ d, IsLocal p (f d))
    (hclock : ∀ d d', d.clock = d'.clock → f d = f d') : IsLocal p (get >>= f) where
  confined d := (hf d).confined d
  alike {d d'} h := by
    change ((f d).run d).1 = ((f d').run d').1 ∧ Disk.Agree p ((f d).run d).2 ((f d').run d').2
    rw [hclock d d' h.clock]
    exact (hf d').alike h

/-- An action that takes one step on the disk is local if the step is. -/
theorem ofStep {a : Action Unit} {f : Disk → Except Fault Unit × Disk}
    {g : Except Fault Unit → Except Error Unit} (hrun : ∀ d, a.run d = (g (f d).1, (f d).2))
    (hconfined : ∀ d, Disk.Confined p d (f d).2)
    (halike : ∀ {d d'}, Disk.Agree p d d' →
      g (f d).1 = g (f d').1 ∧ Disk.Agree p (f d).2 (f d').2) : IsLocal p a where
  confined d := by
    rw [hrun]
    exact hconfined d
  alike h := by
    rw [hrun, hrun]
    exact halike h

/-- A step on the disk is local if it changes nothing else and goes alike. -/
theorem step (path : Path) {f : Disk → Except Fault Unit × Disk}
    (hconfined : ∀ d, Disk.Confined p d (f d).2)
    (halike : ∀ {d d'}, Disk.Agree p d d' →
      ((f d).1 = .ok () ↔ (f d').1 = .ok ()) ∧ Disk.Agree p (f d).2 (f d').2) :
    IsLocal p (Action.step path f) := by
  refine ofStep (f := f)
    (g := fun r => match r with | .ok () => .ok () | .error _ => .error (.io path)) ?_ hconfined ?_
  · intro d
    rcases hf : f d with ⟨fault | _, d₁⟩
    · exact run_step_error hf path
    · exact run_step_ok hf path
  · intro d d' h
    obtain ⟨hiff, hagree⟩ := halike h
    refine ⟨?_, hagree⟩
    by_cases hok : (f d).1 = .ok ()
    · rw [hok, hiff.1 hok]
    · rcases hr : (f d).1 with fault | _
      · rcases hr' : (f d').1 with fault' | _
        · rfl
        · exact absurd (hiff.2 hr') hok
      · exact absurd hr hok

end IsLocal

end Action

namespace Store

/-! ## Changes -/

/-- **Writing a document** is local to every directory it is in. -/
theorem isLocal_write {p parent : Path} (hp : p <+: parent) (file text : String) :
    Action.IsLocal p (write (parent ++ [.text file]) text) := by
  simp only [write, Path.parent_concat, Path.sibling_concat]
  refine .bind (.step _ (fun d => Disk.confined_makeDirectories hp d)
    fun h => h.makeDirectories hp) fun _ => ?_
  refine .bind (.step _ (fun d => Disk.confined_put hp _ _ d) fun h => h.put hp _ _) fun _ => ?_
  exact .step _ (fun d => Disk.confined_rename hp _ _ d) fun h => h.rename hp _ _

/-- A list of an account is written in its directory. -/
theorem isLocal_saveList (s : Store) (account : Identifier) (resource : Resource) (text : String) :
    Action.IsLocal (s.accountPath account) (write (s.resourcePath account resource) text) :=
  isLocal_write List.prefix_rfl resource.fileName text

/-- The record of a device is written in the directory of its account. -/
theorem isLocal_saveDevice (s : Store) (account id : Identifier) (device : Device) :
    Action.IsLocal (s.accountPath account) (s.saveDevice account id device) :=
  isLocal_write ((List.prefix_append _ _).trans (List.prefix_append _ _)) _ _

/-- What is left of an error when a device is removed that need not be there. -/
def removed (path : Path) : Except Fault Unit → Except Error Unit
  | .ok () => .ok ()
  | .error .notFound => .ok ()
  | .error _ => .error (.io path)

/-- A device is removed with its directory. -/
theorem run_removeDevice (s : Store) (account id : Identifier) (d : Disk) :
    (s.removeDevice account id).run d
      = (removed (s.devicePath account id) (d.removeTree (s.devicePath account id)).1,
        (d.removeTree (s.devicePath account id)).2) := by
  unfold removeDevice
  rcases h : d.removeTree (s.devicePath account id) with ⟨fault | _, d₁⟩
  · cases fault <;> simp only [ExceptT.run, h, removed]
  · simp only [ExceptT.run, h, removed]

/-- **Removing a device** is local to the directory of its account. -/
theorem isLocal_removeDevice (s : Store) (account id : Identifier) :
    Action.IsLocal (s.accountPath account) (s.removeDevice account id) := by
  have hp : s.accountPath account <+: s.devicesPath account := List.prefix_append _ _
  refine .ofStep (run_removeDevice s account id)
    (fun d => Disk.confined_removeTree hp (.text id.text) d) fun h => ?_
  obtain ⟨hresult, hagree⟩ := h.removeTree hp (.text id.text)
  exact ⟨congrArg (removed (s.devicePath account id)) hresult, hagree⟩

/-! ## What is given for an account -/

section

variable {s : Store} {account : Identifier} {d d' : Disk}
variable (h : Disk.Agree (s.accountPath account) d d')
include h

/-- A document below the directory of an account is read alike. -/
theorem read_eq {α : Type} {path : Path} (hp : s.accountPath account <+: path)
    (ofText? : String → Option α) : read path ofText? d = read path ofText? d' :=
  read_congr (h.look_eq hp) ofText?

/-- The presets of the account are given alike. -/
theorem presets_eq : s.presets account d = s.presets account d' :=
  read_eq h (List.prefix_append _ _) _

/-- The recents of the account are given alike. -/
theorem recents_eq : s.recents account d = s.recents account d' :=
  read_eq h (List.prefix_append _ _) _

/-- The sources of the account are given alike. -/
theorem sources_eq : s.sources account d = s.sources account d' :=
  congrArg (Except.map Sources.assignIds) (read_eq h (List.prefix_append _ _) _)

/-- The devices of the account are given alike. -/
theorem device_eq (id : Identifier) : s.device account id d = s.device account id d' := by
  refine read_eq h ?_ _
  exact ((List.prefix_append _ _).trans (List.prefix_append _ _)).trans (List.prefix_append _ _)

/-- The devices of the account are given alike if they may be missing. -/
theorem deviceOrNew_eq (id : Identifier) :
    s.deviceOrNew account id d = s.deviceOrNew account id d' := by
  rw [deviceOrNew, deviceOrNew, device_eq h]

/-- The devices of the account are listed alike. -/
theorem deviceNames_eq : s.deviceNames account d = s.deviceNames account d' := by
  have hp : s.accountPath account <+: s.devicesPath account := List.prefix_append _ _
  rw [deviceNames, directories, directories, h.directories_eq hp]

/-- The devices of the account that can be read are the same. -/
theorem allDevices_eq : s.allDevices (some account) d = s.allDevices (some account) d' := by
  have hreadable : s.readableDevices d account = s.readableDevices d' account := by
    simp only [readableDevices, deviceNames_eq h, device_eq h]
  simp [allDevices, hreadable]

/-- The tokens of the account's lists are the same. -/
theorem resourceToken_eq (resource : Resource) :
    s.resourceToken account resource d = s.resourceToken account resource d' :=
  token_congr (h.look_eq (List.prefix_append _ _))

/-- The token of the account is the same. -/
theorem accountToken_eq : s.accountToken account d = s.accountToken account d' := by
  simp only [accountToken, resourceToken_eq h]

end

end Store

end SpeakerHub
