import SpeakerHub.Proofs.Store.Locality
import SpeakerHub.Proofs.Store.Saving
import SpeakerHub.Proofs.Store.Tokens

/-! # Changes of the store

All that is ever done to the store is to save a document, to fail in that, or to remove a device.
A list of an account changes only if it is saved.

* **`Store.Change`** — what one action does to the store, with the document that it saved.
* **`Store.Fails`** — what is left of a save that fails; **`Fails.kept`** — all that is stored.
* **`Save.change`**, **`Store.change_removeDevice`** — saving and removing are such.
* **`Change.look_kept`**, **`look_saved`** — lists that were not saved look as before, a list that
  was saved is there with the time of the clock; **`Change.read_iff`** — and can be read as before.
* **`Change.hasDirectory`** — the directories of accounts stay; **`Change.isAhead`** — so does the
  lead of a clock that moves on.
* **`Change.presets_saved`**, **`recents_saved`**, **`sources_saved`** — what was saved is given
  back. -/

namespace SpeakerHub

/-- The disk with another reading of the clock. -/
def Disk.atTime (clock : Int) (d : Disk) : Disk :=
  { d with clock }

/-! ## Saved lists -/

namespace Save

/-- The list that is saved, by the name of its account. -/
def list? : Save → Option (String × Resource)
  | presets account _ => some (account, .presets)
  | recents account _ => some (account, .recents)
  | sources account _ => some (account, .sources)
  | device .. => none

/-- **A list is saved** under the key of the list. -/
theorem list?_eq_some_iff {save : Save} {k : Key} (h : save.key = .ok k) {account : Identifier}
    {resource : Resource} :
    save.list? = some (account.text, resource) ↔ k = .list account resource := by
  cases goesTo_of_key h with
  | device a id record => simp [list?]
  | _ a xs => rw [list?, Option.some_inj, Prod.mk.injEq, Key.list.injEq, Key.text_inj]

/-- A list that is saved has a key. -/
theorem key_of_list {save : Save} {account : Identifier} {resource : Resource}
    (h : save.list? = some (account.text, resource)) : save.key = .ok (.list account resource) := by
  have haccount : Identifier.ofText account.text = .ok account := Identifier.ofText_eq_ok_iff.2 rfl
  cases save with
  | device name id record => cases h
  | _ name xs =>
    obtain ⟨rfl, rfl⟩ := Prod.mk.inj (Option.some_inj.1 h)
    rw [key, haccount]
    rfl

end Save

namespace Store

/-! ## Changes -/

/-- **What an action leaves that fails to save a document.** -/
inductive Fails (s : Store) (d : Disk) : Disk → Prop where
  /-- It does not come to writing. -/
  | refused : Fails s d d
  /-- It fails on its way to the place of the document. -/
  | broken {k : Key} {text : String} {e : Error} {d' : Disk}
      (h : Writes (k.parent s) k.fileName text d (.error e) d') : Fails s d d'

/-- **What one action does to the store**, and the document that it saved. -/
inductive Change (s : Store) (d : Disk) : Option Save → Disk → Prop where
  /-- It changes nothing. -/
  | nothing : Change s d none d
  /-- It fails to save a document. -/
  | failed {k : Key} {text : String} {e : Error} {d' : Disk}
      (h : Writes (k.parent s) k.fileName text d (.error e) d') : Change s d none d'
  /-- It saves a document. -/
  | saved {save : Save} {k : Key} {d' : Disk} (hkey : save.key = .ok k)
      (h : Writes (k.parent s) k.fileName save.text d (.ok ()) d') : Change s d (some save) d'
  /-- It removes a device, if there is one. -/
  | removed (account id : Identifier) : Change s d none (d.removeTree (s.devicePath account id)).2

/-- To fail is a change without a document. -/
theorem Fails.change {s : Store} {d d' : Disk} (h : s.Fails d d') : s.Change d none d' := by
  cases h with
  | refused => exact .nothing
  | broken h => exact .failed h

end Store

/-- **A save** saves its document or fails. -/
theorem Save.saved_or_fails (save : Save) (s : Store) (d : Disk) :
    ((save.run s).run d).1 = .ok () ∧ s.Change d (some save) ((save.run s).run d).2
      ∨ (∃ e, ((save.run s).run d).1 = .error e) ∧ s.Fails d ((save.run s).run d).2 := by
  cases hkey : save.key with
  | error e =>
    rw [run_of_error hkey]
    exact .inr ⟨⟨e, rfl⟩, .refused⟩
  | ok k =>
    have h := writes_of_key hkey s d
    rcases hresult : ((save.run s).run d).1 with e | _ <;> rw [hresult] at h
    · exact .inr ⟨⟨e, rfl⟩, .broken h⟩
    · exact .inl ⟨rfl, .saved hkey h⟩

/-- Either way it changes the store by no more than its document. -/
theorem Save.change (save : Save) (s : Store) (d : Disk) :
    ((save.run s).run d).1 = .ok () ∧ s.Change d (some save) ((save.run s).run d).2
      ∨ (∃ e, ((save.run s).run d).1 = .error e) ∧ s.Change d none ((save.run s).run d).2 :=
  (save.saved_or_fails s d).imp_right fun ⟨hresult, h⟩ => ⟨hresult, h.change⟩

/-- A save that went well saves its document. -/
theorem Save.change_of_ok {save : Save} {s : Store} {d : Disk}
    (h : ((save.run s).run d).1 = .ok ()) : s.Change d (some save) ((save.run s).run d).2 := by
  rcases save.change s d with ⟨-, hchange⟩ | ⟨⟨e, he⟩, -⟩
  · exact hchange
  · rw [h] at he
    cases he

namespace Store

/-! ## Failures -/

/-- **What is stored is kept** from one disk to another: every document with its time, and the
devices that are listed. -/
structure Kept (s : Store) (d d' : Disk) : Prop where
  /-- The documents, and what else may be in their places. -/
  documents : ∀ (k : Key) (i : Inode), d'.look (k.path s) = .ok i ↔ d.look (k.path s) = .ok i
  /-- The devices, if there is room for drafts. -/
  devices : s.HasRoom → ∀ account : Identifier, account.IsShort →
    s.deviceNames account d' = s.deviceNames account d

section

variable {s : Store} {k : Key} {text : String} {r : Except Error Unit} {d d' : Disk}

/-- **Whatever is there stays** in the places that are not written. -/
theorem Writes.look_iff (h : Writes (k.parent s) k.fileName text d r d') {k' : Key}
    (hne : k' ≠ k ∨ ∃ e, r = .error e) (i : Inode) :
    d'.look (k'.path s) = .ok i ↔ d.look (k'.path s) = .ok i := by
  by_cases hshort : (k'.path s).IsShort
  · rw [look_kept_of_short h hshort hne]
  · -- Nothing is there under a name that is too long.
    exact iff_of_false (mt Disk.isShort_of_look hshort) (mt Disk.isShort_of_look hshort)

/-- **A save that fails** keeps everything. -/
theorem Fails.kept (h : s.Fails d d') : s.Kept d d' := by
  cases h with
  | refused => exact ⟨fun _ _ => Iff.rfl, fun _ _ _ => rfl⟩
  | @broken k _ e _ h =>
    refine ⟨fun k' i => h.look_iff (.inr ⟨e, rfl⟩) i, fun hroom account haccount => ?_⟩
    by_cases hother : ∀ id, k ≠ .device account id
    · exact deviceNames_kept h hroom.short haccount hother
    · rw [not_forall_not] at hother
      obtain ⟨id, rfl⟩ := hother
      exact deviceNames_kept_of_error h hroom haccount

end

/-- **Removing a device** saves nothing. -/
theorem change_removeDevice (s : Store) (account id : Identifier) (d : Disk) :
    s.Change d none ((s.removeDevice account id).run d).2 := by
  rw [run_removeDevice]
  exact .removed account id

/-! ## What is left -/

section

variable {s : Store} {account : Identifier} {resource : Resource} {d d' : Disk}

/-- What is removed with a device lies deeper than the directory of its account and its lists. -/
theorem view_removed (other id : Identifier) {q : Path}
    (hq : q <+: s.resourcePath account resource) :
    (d.removeTree (s.devicePath other id)).2.view q = d.view q := by
  have hdevice : s.devicePath other id = s.devicesPath other ++ [Name.text id.text] := rfl
  have hlength : q.length < (s.devicePath other id).length := by
    have hle := hq.length_le
    simp only [resourcePath, accountPath, devicePath, devicesPath, Path.ofTexts, List.map_cons,
      List.map_nil, List.length_append, List.length_cons, List.length_nil] at hle ⊢
    omega
  by_cases hdirectory : ∃ m, d.look (s.devicePath other id) = .ok (.directory m)
  · obtain ⟨m, hm⟩ := hdirectory
    rw [hdevice] at hm hlength ⊢
    rw [Disk.view_removeTree hm, if_neg fun hprefix => absurd hprefix.length_le (by omega)]
  · rw [Disk.removeTree_of_not (not_exists.1 hdirectory)]

namespace Change

variable {save? : Option Save} (h : s.Change d save? d')
include h

/-- **A list that was not saved** looks as before. -/
theorem look_kept (hshort : (s.accountPath account).IsShort)
    (hother : save?.bind Save.list? ≠ some (account.text, resource)) :
    d'.look (s.resourcePath account resource) = d.look (s.resourcePath account resource) := by
  obtain ⟨hs, haccount⟩ := isShort_accountPath.1 hshort
  have hk : (Key.list account resource).IsShort := haccount
  rw [← Key.path_list]
  cases h with
  | nothing => rfl
  | failed h => exact look_path_kept h hs hk (.inr ⟨_, rfl⟩)
  | saved hkey h =>
    refine look_path_kept h hs hk (.inl fun heq => ?_)
    exact hother ((Save.list?_eq_some_iff hkey).2 heq.symm)
  | removed other id =>
    have hpath := Key.isShort_path hs hk
    rw [Key.path_list] at hpath ⊢
    refine Disk.look_congr_of_short hpath (view_removed other id List.prefix_rfl) fun q hq => ?_
    rw [Disk.HasFile, view_removed other id hq]
    rfl

/-- **A list that was not saved** can be read as before. -/
theorem read_iff {α : Type} (ofText? : String → Option α)
    (hother : save?.bind Save.list? ≠ some (account.text, resource)) (x : α) :
    read (s.resourcePath account resource) ofText? d' = .ok x
      ↔ read (s.resourcePath account resource) ofText? d = .ok x := by
  by_cases hshort : (s.accountPath account).IsShort
  · rw [read_congr (h.look_kept hshort hother)]
  · -- Along a name that is too long nothing can be read.
    have hno (e : Disk) : read (s.resourcePath account resource) ofText? e ≠ .ok x := by
      intro hread
      obtain ⟨i, hlook⟩ := exists_look_of_read hread
      exact hshort (Path.isShort_append.1 (Disk.isShort_of_look hlook)).1
    exact iff_of_false (hno d') (hno d)

/-- Presets that were not saved can be read as before. -/
theorem presets_iff (hother : save?.bind Save.list? ≠ some (account.text, .presets))
    (xs : List Preset) : s.presets account d' = .ok xs ↔ s.presets account d = .ok xs :=
  h.read_iff Presets.ofText? hother xs

/-- Recents that were not saved can be read as before. -/
theorem recents_iff (hother : save?.bind Save.list? ≠ some (account.text, .recents))
    (xs : List Recent) : s.recents account d' = .ok xs ↔ s.recents account d = .ok xs :=
  h.read_iff Recents.ofText? hother xs

/-- Sources that were not saved can be read as before. -/
theorem sources_iff (hother : save?.bind Save.list? ≠ some (account.text, .sources))
    (xs : List Source) : s.sources account d' = .ok xs ↔ s.sources account d = .ok xs := by
  simp only [Store.sources, map_eq_ok_iff, h.read_iff Sources.ofText? hother]

/-- **The directory of an account** stays. -/
theorem hasDirectory (hd : d.HasDirectory (s.accountPath account)) :
    d'.HasDirectory (s.accountPath account) := by
  have hwritten {k : Key} {text : String} {r : Except Error Unit}
      (h : Writes (k.parent s) k.fileName text d r d') :
      d'.HasDirectory (s.accountPath account) := by
    -- What is written lies deeper than the directory of any account.
    have hne {name : String} : s.accountPath account ≠ k.parent s ++ [Name.text name] := by
      intro heq
      have hlength := congrArg List.length heq
      cases k <;> simp [accountPath_eq, Key.parent, Key.folder] at hlength
    rw [Disk.HasDirectory, h.view_of_ne hne hne]
    exact Disk.hasDirectory_makeDirectories.2 (.inl hd)
  cases h with
  | nothing => exact hd
  | failed h => exact hwritten h
  | saved hkey h => exact hwritten h
  | removed other id =>
    have hview := view_removed (d := d) other id
      (List.prefix_append (s.accountPath account) (Path.ofTexts [Resource.presets.fileName]))
    rw [Disk.HasDirectory, hview]
    exact hd

/-- **Whatever is new** carries the time of the clock. -/
theorem view_new {q : Path} {i : Inode} (hview : d'.view q = some i) :
    d.view q = some i ∨ i.modified = d.now := by
  cases h with
  | nothing => exact .inl hview
  | failed h => exact h.view_new hview
  | saved hkey h => exact h.view_new hview
  | removed other id =>
    by_cases hdirectory : ∃ m, d.look (s.devicePath other id) = .ok (.directory m)
    · obtain ⟨m, hm⟩ := hdirectory
      have hdevice : s.devicePath other id = s.devicesPath other ++ [Name.text id.text] := rfl
      rw [hdevice] at hm hview
      rw [Disk.view_removeTree hm] at hview
      split at hview
      · cases hview
      · exact .inl hview
    · rw [Disk.removeTree_of_not (not_exists.1 hdirectory)] at hview
      exact .inl hview

/-- **The clock stays ahead** of the disk if it moves on. -/
theorem isAhead (hahead : d.IsAhead) {clock : Int} (hclock : d.clock < clock) :
    (d'.atTime clock).IsAhead where
  positive := Int.lt_trans hahead.positive hclock
  newest q i hview := by
    have hnow : d.now < (d'.atTime clock).now := by
      change 1000000 * d.clock < 1000000 * clock
      omega
    rcases h.view_new hview with hold | hnew
    · exact Int.lt_trans (hahead.newest q i hold) hnow
    · rwa [hnew]

/-- There is a directory of accounts once a document was saved. -/
theorem hasDirectory_accountsPath (hsaved : save?.isSome) : d'.HasDirectory s.accountsPath := by
  cases h with
  | saved hkey h =>
    obtain ⟨m, hm⟩ := h.parent_of_ok
    have hparent : d'.HasDirectory (_ : Path) := ⟨m, Disk.view_of_look hm⟩
    exact hparent.of_isPrefix (List.prefix_append _ _)
  | _ => cases hsaved

end Change

/-- **A list that was saved** is there with the time of the clock. -/
theorem Change.look_saved {save : Save} (h : s.Change d (some save) d')
    (hlist : save.list? = some (account.text, resource)) :
    d'.look (s.resourcePath account resource) = .ok (.file save.text.toUTF8 d.now) := by
  cases h with
  | saved hkey h =>
    rw [Save.list?_eq_some_iff hkey] at hlist
    subst hlist
    rw [← Key.path_list]
    exact h.look_of_ok

/-- **A document that was saved** is given back. -/
theorem Change.get_saved {save : Save} {k : Key} (h : s.Change d (some save) d')
    (hkey : save.key = .ok k) : s.get k d' = .ok save.kept := by
  cases h with
  | saved hkey' h =>
    obtain rfl := Except.ok.inj (hkey'.symm.trans hkey)
    exact get_of_look hkey h.look_of_ok

/-- A value that is read under a name for it is the value. -/
theorem eq_ok_of_map {α β : Type} {f : α → β} (hf : Function.Injective f) {x : Except Error α}
    {v : α} (h : x.map f = .ok (f v)) : x = .ok v := by
  cases x with
  | error e => cases h
  | ok w => rw [hf (Except.ok.inj h)]

/-- Presets that were saved are given back. -/
theorem Change.presets_saved {xs : List Preset}
    (h : s.Change d (some (.presets account.text xs)) d') : s.presets account d' = .ok xs := by
  refine eq_ok_of_map (f := Filed.presets) (fun _ _ => Filed.presets.inj) ?_
  exact h.get_saved (@Save.key_of_list _ account .presets rfl)

/-- Recents that were saved are given back. -/
theorem Change.recents_saved {xs : List Recent}
    (h : s.Change d (some (.recents account.text xs)) d') : s.recents account d' = .ok xs := by
  refine eq_ok_of_map (f := Filed.recents) (fun _ _ => Filed.recents.inj) ?_
  exact h.get_saved (@Save.key_of_list _ account .recents rfl)

/-- Sources that were saved are given back, each with an id. -/
theorem Change.sources_saved {xs : List Source}
    (h : s.Change d (some (.sources account.text xs)) d') :
    s.sources account d' = .ok (Sources.assignIds xs) := by
  refine eq_ok_of_map (f := Filed.sources) (fun _ _ => Filed.sources.inj) ?_
  exact h.get_saved (@Save.key_of_list _ account .sources rfl)

end

end Store

end SpeakerHub
