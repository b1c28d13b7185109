import SpeakerHub.Proofs.Record.DeviceDocument
import SpeakerHub.Proofs.Store.Layout
import SpeakerHub.Proofs.Store.Writing

/-! # The store as a map

Seen through what it gives back, the store maps keys to documents. Saving one replaces the document
under its key; every other document, every other token and every listing stays as it was, and a
save that fails changes none of them.

* **`Filed`**, **`Store.get`**, **`Store.keyToken`** — what is filed under a key.
* **`Save`** — saving a document under names that may be no identifiers;
  **`Save.GoesTo`** — where it goes if they are.
* **`Store.get_of_look`** — the document that was saved is given back.
* **`Store.look_path_kept`**, **`deviceNames_kept`**, **`deviceNames_added`** — what a write leaves
  and adds.
* **`saving_replaces_one_document`** — the map. -/

namespace SpeakerHub

/-- What is filed under a key. -/
inductive Filed where
  /-- The presets of an account. -/
  | presets (presets : List Preset)
  /-- The recents of an account. -/
  | recents (recents : List Recent)
  /-- The sources of an account. -/
  | sources (sources : List Source)
  /-- The record of a device. -/
  | device (device : Device)

namespace Store

/-- What the store gives for a key. -/
def get (s : Store) : Key → Disk → Except Error Filed
  | .list account .presets, d => (s.presets account d).map .presets
  | .list account .recents, d => (s.recents account d).map .recents
  | .list account .sources, d => (s.sources account d).map .sources
  | .device account id, d => (s.device account id d).map .device

end Store

/-- An identifier is the only one that a name is read as. -/
theorem Identifier.ofText?_eq_some_iff {text : String} {i : Identifier} :
    ofText? text = some i ↔ i.text = text := by
  refine ⟨fun h => ?_, fun h => h ▸ ofText?_text i⟩
  rw [ofText?] at h
  split at h
  · obtain rfl := Option.some.inj h
    rfl
  · cases h

/-- An identifier is the only one that its text is read as. -/
theorem Identifier.ofText_eq_ok_iff {text : String} {i : Identifier} :
    ofText text = .ok i ↔ i.text = text := by
  rw [← ofText?_eq_some_iff, ofText]
  cases ofText? text with
  | none => exact iff_of_false nofun nofun
  | some j => simp

/-- A document that is saved under names. -/
inductive Save where
  /-- The presets of an account. -/
  | presets (account : String) (presets : List Preset)
  /-- The recents of an account. -/
  | recents (account : String) (recents : List Recent)
  /-- The sources of an account. -/
  | sources (account : String) (sources : List Source)
  /-- The record of a device. -/
  | device (account id : String) (device : Device)

namespace Save

/-- The key that the names make up. -/
def key : Save → Except Error Key
  | presets account _ => do return .list (← Identifier.ofText account) .presets
  | recents account _ => do return .list (← Identifier.ofText account) .recents
  | sources account _ => do return .list (← Identifier.ofText account) .sources
  | device account id _ => do
    return .device (← Identifier.ofText account) (← Identifier.ofText id)

/-- **Where a save goes**, under names that are identifiers. -/
inductive GoesTo : Save → Key → Prop where
  /-- Presets go to the list of presets. -/
  | presets (account : Identifier) (xs : List Preset) :
      GoesTo (.presets account.text xs) (.list account .presets)
  /-- Recents go to the list of recents. -/
  | recents (account : Identifier) (xs : List Recent) :
      GoesTo (.recents account.text xs) (.list account .recents)
  /-- Sources go to the list of sources. -/
  | sources (account : Identifier) (xs : List Source) :
      GoesTo (.sources account.text xs) (.list account .sources)
  /-- A record goes to the device. -/
  | device (account id : Identifier) (record : Device) :
      GoesTo (.device account.text id.text record) (.device account id)

/-- A save with a key goes there. -/
theorem goesTo_of_key {save : Save} {k : Key} (h : save.key = .ok k) : GoesTo save k := by
  cases save with
  | presets account xs =>
    obtain ⟨a, ha, ⟨⟩⟩ := bind_eq_ok_iff.1 h
    obtain rfl := Identifier.ofText_eq_ok_iff.1 ha
    exact .presets a xs
  | recents account xs =>
    obtain ⟨a, ha, ⟨⟩⟩ := bind_eq_ok_iff.1 h
    obtain rfl := Identifier.ofText_eq_ok_iff.1 ha
    exact .recents a xs
  | sources account xs =>
    obtain ⟨a, ha, ⟨⟩⟩ := bind_eq_ok_iff.1 h
    obtain rfl := Identifier.ofText_eq_ok_iff.1 ha
    exact .sources a xs
  | device account id record =>
    obtain ⟨a, ha, hdevice⟩ := bind_eq_ok_iff.1 h
    obtain ⟨i, hi, ⟨⟩⟩ := bind_eq_ok_iff.1 hdevice
    obtain rfl := Identifier.ofText_eq_ok_iff.1 ha
    obtain rfl := Identifier.ofText_eq_ok_iff.1 hi
    exact .device a i record

/-- The text that is saved. -/
def text : Save → String
  | presets _ xs => Presets.toText xs
  | recents _ xs => Recents.toText xs
  | sources _ xs => Sources.toText xs
  | device _ _ record => record.toText

/-- What is given back afterwards: sources have ids, and a product code that ends in its only space
has lost it. -/
def kept : Save → Filed
  | presets _ xs => .presets xs
  | recents _ xs => .recents xs
  | sources _ xs => .sources (Sources.assignIds xs)
  | device _ _ record => .device record.stored

/-- Saves the document. -/
def run (s : Store) : Save → Action Unit
  | presets account xs => do s.savePresets (← Identifier.ofText account) xs
  | recents account xs => do s.saveRecents (← Identifier.ofText account) xs
  | sources account xs => do s.saveSources (← Identifier.ofText account) xs
  | device account id record => do
    s.saveDevice (← Identifier.ofText account) (← Identifier.ofText id) record

/-- **A save writes its text** at the path of its key. -/
theorem run_eq (s : Store) (save : Save) :
    save.run s = liftM save.key >>= fun k => Store.write (k.path s) save.text := by
  cases save with
  | presets account xs =>
    rw [run, key]
    cases Identifier.ofText account <;> rfl
  | recents account xs =>
    rw [run, key]
    cases Identifier.ofText account <;> rfl
  | sources account xs =>
    rw [run, key]
    cases Identifier.ofText account <;> rfl
  | device account id record =>
    rw [run, key]
    cases Identifier.ofText account with
    | error e => rfl
    | ok a =>
      cases Identifier.ofText id with
      | error e => rfl
      | ok i =>
        change Store.write (s.recordPath a i) _ = Store.write ((Key.device a i).path s) _
        rw [Key.path_device]
        rfl

/-- A save with a key writes there. -/
theorem writes_of_key {save : Save} {k : Key} (h : save.key = .ok k) (s : Store) (d : Disk) :
    Store.Writes (k.parent s) k.fileName save.text d ((save.run s).run d).1
      ((save.run s).run d).2 := by
  rw [run_eq, h]
  exact Store.writes (k.parent s) k.fileName save.text d

/-- A save without a key fails and changes nothing. -/
theorem run_of_error {save : Save} {e : Error} (h : save.key = .error e) (s : Store) (d : Disk) :
    (save.run s).run d = (.error e, d) := by
  rw [run_eq, h]
  rfl

end Save

namespace Store

variable {s : Store} {k k' : Key} {text : String} {d d' : Disk} {r : Except Error Unit}

/-! ## What is given back -/

/-- What is given for a key depends on what is looked at. -/
theorem get_congr (h : d'.look (k.path s) = d.look (k.path s)) : s.get k d' = s.get k d := by
  rcases k with ⟨account, _ | _ | _⟩ | ⟨account, id⟩
  · exact congrArg (Except.map _) (read_congr h _)
  · exact congrArg (Except.map _) (read_congr h _)
  · exact congrArg (Except.map _) (congrArg (Except.map _) (read_congr h _))
  · rw [Key.path_device] at h
    exact congrArg (Except.map _) (read_congr h _)

/-- **The document that was saved** is given back. -/
theorem get_of_look {save : Save} (hkey : save.key = .ok k) {modified : Int}
    (h : d.look (k.path s) = .ok (.file save.text.toUTF8 modified)) :
    s.get k d = .ok save.kept := by
  cases Save.goesTo_of_key hkey with
  | presets account xs =>
    exact congrArg (Except.map _) (read_file h (Presets.ofText_toText xs))
  | recents account xs =>
    exact congrArg (Except.map _) (read_file h (Recents.ofText_toText xs))
  | sources account xs =>
    exact congrArg (Except.map _)
      (congrArg (Except.map _) (read_file h (Sources.ofText_toText xs)))
  | device account id record =>
    rw [Key.path_device] at h
    exact congrArg (Except.map _) (read_file h record.ofText_toText)

/-! ## What a write leaves and adds -/

/-- The names of a listing with one of them added, if it is not among them. -/
def withName (name : String) (names : List String) : List String :=
  (name :: names.filter (· != name)).mergeSort (· ≤ ·)

/-- A name that is added is among the names. -/
theorem mem_withName {name other : String} {names : List String} :
    other ∈ withName name names ↔ other ∈ names ∨ other = name := by
  rw [withName, List.mem_mergeSort, List.mem_cons, List.mem_filter, bne_iff_ne]
  by_cases h : other = name <;> simp [h]

/-- A listing with a name added is a listing. -/
theorem isListing_withName {names : List String} (h : names.Nodup) (name : String) :
    Disk.IsListing (withName name names) :=
  Disk.isListing_mergeSort (List.nodup_cons.2 ⟨by simp, h.filter _⟩)

section

variable (h : Writes (k.parent s) k.fileName text d r d')
include h

/-- **Other documents are left** by a write, and the document itself by one that failed. -/
theorem look_kept_of_short (hshort : (k'.path s).IsShort)
    (hne : k' ≠ k ∨ ∃ e, r = .error e) : d'.look (k'.path s) = d.look (k'.path s) := by
  refine h.look_kept hshort ?_ (hne.imp_left fun hne => ?_) ?_
  · change ¬k.draft s <+: k'.path s
    rw [Key.draft_eq, Key.path_eq, List.prefix_append_right_inj]
    exact Key.draftTail_not_isPrefix k k'
  · change ¬k.path s <+: k'.path s
    rw [Key.path_eq, Key.path_eq, List.prefix_append_right_inj, Key.tail_prefix_iff]
    exact Ne.symm hne
  · rw [Key.path_eq, Key.parent, List.prefix_append_right_inj]
    exact Key.tail_not_prefix_folder k' k

/-- So it is with all documents whose identifiers are short. -/
theorem look_path_kept (hs : s.directory.IsShort) (hk' : k'.IsShort)
    (hne : k' ≠ k ∨ ∃ e, r = .error e) : d'.look (k'.path s) = d.look (k'.path s) :=
  look_kept_of_short h (Key.isShort_path hs hk') hne

/-- What is seen on the way to an entry of a directory of devices changes by directories alone. -/
theorem view_devices_kept (account : Identifier) (name : Name) {q : Path}
    (hq : q <+: s.devicesPath account ++ [name]) :
    d'.view q = (made (k.parent s) d).view q := by
  rw [Key.devicesPath_concat] at hq
  refine h.view_of_ne ?_ ?_
  · rintro rfl
    change k.draft s <+: _ at hq
    rw [Key.draft_eq, List.prefix_append_right_inj] at hq
    exact Key.draftTail_not_prefix_devices k account name hq
  · rintro rfl
    change k.path s <+: _ at hq
    rw [Key.path_eq, List.prefix_append_right_inj] at hq
    exact Key.tail_not_prefix_devices k account name hq

/-- The same files are on the way to a directory of devices. -/
theorem hasFile_devices_kept (account : Identifier) {q : Path} (hq : q <+: s.devicesPath account) :
    d'.HasFile q ↔ d.HasFile q := by
  have hview := view_devices_kept h account (.text "") (hq.trans (List.prefix_append _ _))
  rw [Disk.HasFile, hview]
  exact Disk.hasFile_makeDirectories

/-- The directories of devices are those of before, and the one that was made. -/
theorem hasDirectory_devices_iff (account : Identifier) (name : String) :
    d'.HasDirectory (s.devicesPath account ++ [.text name])
      ↔ d.HasDirectory (s.devicesPath account ++ [.text name])
        ∨ d.Makes (k.parent s) (s.devicesPath account ++ [.text name]) := by
  rw [Disk.HasDirectory, view_devices_kept h account (.text name) List.prefix_rfl]
  exact Disk.hasDirectory_makeDirectories

/-- **Listings are left** by the write of anything but a device of the account. -/
theorem deviceNames_kept (hs : s.directory.IsShort) {account : Identifier}
    (haccount : account.IsShort) (hother : ∀ id, k ≠ .device account id) :
    s.deviceNames account d' = s.deviceNames account d := by
  refine directories_congr (Key.isShort_devicesPath hs haccount)
    (fun q hq => hasFile_devices_kept h account hq) fun name => ?_
  rw [hasDirectory_devices_iff h, or_iff_left]
  intro hmakes
  have halong := hmakes.along
  rw [Key.devicesPath_concat, Key.parent, List.prefix_append_right_inj,
    Key.devices_prefix_folder_iff] at halong
  obtain ⟨id, hk, -⟩ := halong
  exact hother id hk

end

section

variable {account id : Identifier}

/-- **The device that was saved** is listed, beside those that were. -/
theorem deviceNames_added
    (h : Writes ((Key.device account id).parent s) "DeviceInfo.xml" text d (.ok ()) d') :
    ∃ names, s.deviceNames account d = .ok names
      ∧ s.deviceNames account d' = .ok (withName id.text names) := by
  have hmakes := h.makes_of_ok
  have hparent := Key.parent_device s account id
  have hshort : (s.devicesPath account).IsShort :=
    (Path.isShort_append.1 (hparent ▸ hmakes.clear.1)).1
  have husable : (s.devicesPath account).isUnusable = false :=
    Disk.isUnusable_of_append (hparent ▸ hmakes.usable)
  have hclear : ¬d.root.IsBlocked (s.devicesPath account) := by
    rintro ⟨q, hq, hfile⟩
    refine hmakes.clear.2 ⟨q, hq.trans ?_, hfile⟩
    rw [hparent]
    exact List.prefix_append _ _
  have hclear' : ¬d'.root.IsBlocked (s.devicesPath account) := by
    rintro ⟨q, hq, hfile⟩
    exact hclear ⟨q, hq, (hasFile_devices_kept h account hq).1 hfile⟩
  obtain ⟨names, hok, hlisting, hmem⟩ := directories_eq_ok hshort husable hclear
  obtain ⟨names', hok', hlisting', hmem'⟩ := directories_eq_ok hshort husable hclear'
  refine ⟨names, hok, ?_⟩
  -- Both listings are sorted without repetition, so it is enough that they have the same names.
  have heq : names' = withName id.text names := by
    refine hlisting'.eq (isListing_withName hlisting.nodup id.text) fun name => ?_
    rw [hmem', hasDirectory_devices_iff h, mem_withName, hmem]
    refine or_congr_right ⟨fun hmade => ?_, fun he => ?_⟩
    · have halong := hmade.along
      rw [hparent, List.prefix_append_right_inj] at halong
      simpa using halong
    · subst he
      rw [← hparent]
      exact hmakes
  rw [deviceNames, hok', heq]

/-- **Listings are left** by the write of a device that failed. -/
theorem deviceNames_kept_of_error {e : Error}
    (h : Writes ((Key.device account id).parent s) "DeviceInfo.xml" text d (.error e) d')
    (hs : s.HasRoom) (haccount : account.IsShort) :
    s.deviceNames account d' = s.deviceNames account d := by
  have hparent := Key.parent_device s account id
  refine directories_congr (Key.isShort_devicesPath hs.short haccount)
    (fun q hq => hasFile_devices_kept h account hq) fun name => ?_
  -- The directory of the device itself is the only one that a failed write could have left.
  by_cases hname : name = id.text ∧ id.IsShort
  · obtain ⟨rfl, hid⟩ := hname
    have hdraft : (Name.text ("DeviceInfo.xml" ++ ".tmp")).isTooLong = false := by decide
    have hview := h.parent_of_error (hs.usable ⟨haccount, hid⟩) hdraft
    rw [hparent] at hview
    rw [Disk.HasDirectory, hview, Disk.HasDirectory]
  · rw [hasDirectory_devices_iff h, or_iff_left]
    intro hmade
    have halong := hmade.along
    rw [hparent, List.prefix_append_right_inj] at halong
    have hsame : name = id.text := by simpa using halong
    have hshort : (Name.text name).isTooLong = false := hmade.clear.1 (.text name) (by simp)
    rw [hsame] at hshort
    exact hname ⟨hsame, hshort⟩

end

end Store

end SpeakerHub
