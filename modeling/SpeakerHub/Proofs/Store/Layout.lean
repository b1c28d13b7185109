import SpeakerHub.Proofs.Disk.Steps
import SpeakerHub.Store

/-! # Where documents are

Every document has a key: an account and one of its lists, or an account and one of its devices. No
document and no draft of one stands in the place of another, or on the way to it.

* **`Key`** — what a document is filed under; **`Key.path`**, **`Key.draft`** — where it is, and
  where it is written first.
* **`Key.tail_prefix_iff`**, **`Key.draftTail_not_isPrefix`** — documents are never in each other's
  way.
* **`Key.devices_prefix_folder_iff`** — which directories of devices are on the way to a document.
* **`Key.isShort_path`** — the disk can hold every document whose identifiers are short;
  **`Store.HasRoom.usable`** — and its draft, if the directory of the store leaves room. -/

namespace SpeakerHub

/-- An identifier that can be the name of an entry. -/
def Identifier.IsShort (i : Identifier) : Prop :=
  (Name.text i.text).isTooLong = false

instance (i : Identifier) : Decidable i.IsShort :=
  inferInstanceAs (Decidable (_ = _))

/-- What a document is filed under. -/
inductive Key where
  /-- A list of an account. -/
  | list (account : Identifier) (resource : Resource)
  /-- A device of an account. -/
  | device (account id : Identifier)
  deriving DecidableEq

namespace Key

/-- A key whose identifiers can be names of entries. -/
def IsShort : Key → Prop
  | list account _ => account.IsShort
  | device account id => account.IsShort ∧ id.IsShort

/-- The directories on the way to a document, from that of all accounts. -/
def folder : Key → Path
  | list account _ => [.text account.text]
  | device account id => [.text account.text, .text "devices", .text id.text]

/-- The name of a document. -/
def fileName : Key → String
  | list _ resource => resource.fileName
  | device .. => "DeviceInfo.xml"

/-- The way to a document, from the directory of all accounts. -/
def tail (k : Key) : Path :=
  k.folder ++ [.text k.fileName]

/-- The way to the draft of a document, from the directory of all accounts. -/
def draftTail (k : Key) : Path :=
  k.folder ++ [.text (k.fileName ++ ".tmp")]

/-- The directory of a document. -/
def parent (s : Store) (k : Key) : Path :=
  s.accountsPath ++ k.folder

/-- The document. -/
def path (s : Store) (k : Key) : Path :=
  k.parent s ++ [.text k.fileName]

/-- The document before it takes its place. -/
def draft (s : Store) (k : Key) : Path :=
  k.parent s ++ [.text (k.fileName ++ ".tmp")]

/-- A device is where the store keeps it. -/
theorem path_device (s : Store) (account id : Identifier) :
    (device account id).path s = s.recordPath account id := by
  simp [path, parent, folder, fileName, Store.recordPath, Store.devicePath, Store.devicesPath,
    Store.accountPath, Path.ofTexts]

/-- A list is where the store keeps it. -/
theorem path_list (s : Store) (account : Identifier) (resource : Resource) :
    (list account resource).path s = s.resourcePath account resource := by
  simp [path, parent, folder, fileName, Store.resourcePath, Store.accountPath, Path.ofTexts]

/-- A document is at the end of its way. -/
theorem path_eq (s : Store) (k : Key) : k.path s = s.accountsPath ++ k.tail := by
  rw [path, parent, tail, List.append_assoc]

/-- A draft is at the end of its way. -/
theorem draft_eq (s : Store) (k : Key) : k.draft s = s.accountsPath ++ k.draftTail := by
  rw [draft, parent, draftTail, List.append_assoc]

/-- An entry of the directory of an account's devices is at the end of its way. -/
theorem devicesPath_concat (s : Store) (account : Identifier) (name : Name) :
    s.devicesPath account ++ [name]
      = s.accountsPath ++ [.text account.text, .text "devices", name] := by
  simp [Store.devicesPath, Store.accountPath, Path.ofTexts]

/-- The directory of a device is one of the directory of its account's devices. -/
theorem parent_device (s : Store) (account id : Identifier) :
    (device account id).parent s = s.devicesPath account ++ [.text id.text] :=
  (devicesPath_concat s account (.text id.text)).symm

/-! ## Documents do not nest -/

/-- Identifiers with the same text are the same. -/
theorem text_inj {i j : Identifier} : i.text = j.text ↔ i = j := by
  cases i
  cases j
  simp

/-- The names of lists are different. -/
theorem fileName_inj {r r' : Resource} : r.fileName = r'.fileName ↔ r = r' := by
  cases r <;> cases r' <;> decide

/-- No list has the name of the directory of devices. -/
theorem fileName_ne_devices (r : Resource) : r.fileName ≠ "devices" := by
  cases r <;> decide

/-- No draft has the name of the directory of devices. -/
theorem draftName_ne_devices (r : Resource) : r.fileName ++ ".tmp" ≠ "devices" := by
  cases r <;> decide

/-- No draft has the name of a list. -/
theorem draftName_ne_fileName (r r' : Resource) : r.fileName ++ ".tmp" ≠ r'.fileName := by
  cases r <;> cases r' <;> decide

/-- The names that documents have. -/
theorem fileName_mem (k : Key) :
    k.fileName ∈ ["Presets.xml", "Recents.xml", "Sources.xml", "DeviceInfo.xml"] := by
  rcases k with ⟨account, _ | _ | _⟩ | _ <;> simp [fileName, Resource.fileName]

/-- **No document is on the way to another one.** -/
theorem tail_prefix_iff {k k' : Key} : k.tail <+: k'.tail ↔ k = k' := by
  cases k <;> cases k' <;>
    simp [tail, folder, fileName, List.cons_prefix_cons, text_inj, fileName_inj,
      fileName_ne_devices]

/-- **No draft is on the way to a document**, or in its place. -/
theorem draftTail_not_isPrefix (k k' : Key) : ¬k.draftTail <+: k'.tail := by
  cases k <;> cases k' <;>
    simp +decide [tail, draftTail, folder, fileName, List.cons_prefix_cons, draftName_ne_fileName,
      draftName_ne_devices]

/-- No document is on the way to the directory of another one. -/
theorem tail_not_prefix_folder (k k' : Key) : ¬k.tail <+: k'.folder := by
  cases k <;> cases k' <;>
    simp [tail, folder, fileName, List.cons_prefix_cons, fileName_ne_devices]

/-- No document is on the way to a directory of devices, or to an entry of it. -/
theorem tail_not_prefix_devices (k : Key) (account : Identifier) (name : Name) :
    ¬k.tail <+: [.text account.text, .text "devices", name] := by
  cases k <;> simp [tail, folder, fileName, List.cons_prefix_cons, fileName_ne_devices]

/-- No draft is on the way to a directory of devices, or to an entry of it. -/
theorem draftTail_not_prefix_devices (k : Key) (account : Identifier) (name : Name) :
    ¬k.draftTail <+: [.text account.text, .text "devices", name] := by
  cases k <;> simp [draftTail, folder, fileName, List.cons_prefix_cons, draftName_ne_devices]

/-- **The directory of a device** is on the way to the document of this device alone. -/
theorem devices_prefix_folder_iff {k : Key} {account : Identifier} {name : String} :
    [.text account.text, .text "devices", .text name] <+: k.folder
      ↔ ∃ id : Identifier, k = device account id ∧ name = id.text := by
  cases k with
  | list a r => simp [folder, List.cons_prefix_cons]
  | device a i =>
    simp only [folder, List.cons_prefix_cons, Name.text.injEq, text_inj, List.nil_prefix, and_true,
      true_and, device.injEq]
    constructor
    · rintro ⟨rfl, rfl⟩
      exact ⟨i, ⟨rfl, rfl⟩, rfl⟩
    · rintro ⟨_, ⟨rfl, rfl⟩, rfl⟩
      exact ⟨rfl, rfl⟩

end Key

/-! ## Room -/

/-- A path is short if both its parts are. -/
theorem Path.isShort_append {p q : Path} : Path.IsShort (p ++ q) ↔ p.IsShort ∧ q.IsShort :=
  List.forall_mem_append

namespace Key

variable {s : Store} {k : Key}

/-- Documents and drafts have short names without the character zero. -/
theorem fileName_limits (k : Key) :
    ((Name.text k.fileName).hasZero = false ∧ (Name.text (k.fileName ++ ".tmp")).hasZero = false)
      ∧ (Name.text k.fileName).size + 4 = (Name.text (k.fileName ++ ".tmp")).size
      ∧ (Name.text (k.fileName ++ ".tmp")).size ≤ 18 := by
  have hall : ∀ name ∈ ["Presets.xml", "Recents.xml", "Sources.xml", "DeviceInfo.xml"],
      ((Name.text name).hasZero = false ∧ (Name.text (name ++ ".tmp")).hasZero = false)
        ∧ (Name.text name).size + 4 = (Name.text (name ++ ".tmp")).size
        ∧ (Name.text (name ++ ".tmp")).size ≤ 18 := by
    decide
  exact hall k.fileName k.fileName_mem

/-- The directory of all accounts has short names on its way if the directory of the store does. -/
theorem isShort_accountsPath : s.accountsPath.IsShort ↔ s.directory.IsShort := by
  have haccounts : (Path.ofTexts ["accounts"]).IsShort := by
    simp +decide [Path.IsShort]
  rw [Store.accountsPath, Path.isShort_append, and_iff_left haccounts]

/-- The directories on the way to a document have short names if its identifiers are short. -/
theorem isShort_folder (hk : k.IsShort) : k.folder.IsShort := by
  cases k with
  | list account resource =>
    have haccount : (Name.text account.text).isTooLong = false := hk
    simp [folder, Path.IsShort, haccount]
  | device account id =>
    obtain ⟨haccount, hid⟩ := hk
    rw [Identifier.IsShort] at haccount hid
    simp +decide [folder, Path.IsShort, haccount, hid]

/-- **A document has short names on its way** if its identifiers are short. -/
theorem isShort_path (hs : s.directory.IsShort) (hk : k.IsShort) : (k.path s).IsShort := by
  have hname : (Name.text k.fileName).isTooLong = false := by
    obtain ⟨-, hdraft, hsize⟩ := k.fileName_limits
    exact decide_eq_false (by omega)
  rw [path, parent, Path.isShort_append, Path.isShort_append]
  exact ⟨⟨isShort_accountsPath.2 hs, isShort_folder hk⟩, by simpa [Path.IsShort] using hname⟩

/-- The devices of an account have short names on their way if its identifier is short. -/
theorem isShort_devicesPath (hs : s.directory.IsShort) {account : Identifier}
    (haccount : account.IsShort) : (s.devicesPath account).IsShort := by
  have hname : (Name.text account.text).isTooLong = false := haccount
  rw [Store.devicesPath, Store.accountPath, Path.isShort_append, Path.isShort_append]
  refine ⟨⟨isShort_accountsPath.2 hs, ?_⟩, ?_⟩
  · simpa [Path.IsShort, Path.ofTexts] using hname
  · simp +decide [Path.IsShort]

/-- The directories on the way to a document are not long. -/
theorem bytes_folder_le (hk : k.IsShort) : Path.bytes k.folder ≤ 520 := by
  cases k with
  | list account resource =>
    have haccount : account.text.utf8ByteSize ≤ 255 := by
      simpa [IsShort, Identifier.IsShort, Name.isTooLong, Name.size] using hk
    simp [folder, Name.size]
    omega
  | device account id =>
    have hids : account.text.utf8ByteSize ≤ 255 ∧ id.text.utf8ByteSize ≤ 255 := by
      simpa [IsShort, Identifier.IsShort, Name.isTooLong, Name.size] using hk
    have hdevices : (Name.text "devices").size = 7 := by decide
    simp only [folder, Path.bytes_cons, Path.bytes_nil, hdevices]
    simp only [Name.size]
    omega

end Key

/-- **The directory of a store leaves room** for what is in it: its names are as long as names may
be, and its length leaves what the longest draft needs of the length that a path may have. -/
structure Store.HasRoom (s : Store) : Prop where
  /-- No name is too long. -/
  short : s.directory.IsShort
  /-- The longest draft of a document can be followed. -/
  room : s.directory.size + 548 ≤ 4095

/-- The usual directory leaves room. -/
example : ({ directory := Path.ofTexts ["data"] } : Store).HasRoom :=
  ⟨by simp +decide [Path.IsShort], by decide⟩

/-- **A document and its draft can be followed** if their directory can and there is room. -/
theorem Store.HasRoom.usable {s : Store} (h : s.HasRoom) {k : Key} (hk : k.IsShort)
    (hparent : (k.parent s).isUnusable = false) :
    (k.path s).isUnusable = false ∧ (k.draft s).isUnusable = false := by
  obtain ⟨⟨hzero, hzero'⟩, hsize, hdraft⟩ := k.fileName_limits
  have haccounts : (Path.ofTexts ["accounts"]).bytes = 9 := by decide
  have hfolder := Key.bytes_folder_le hk
  have hroom := h.room
  -- Nine for the directory of all accounts, 520 for what is in it, and 19 for the draft.
  simp only [Path.size] at hroom
  simp only [Key.path, Key.draft, Path.isUnusable, Bool.or_eq_false_iff, List.any_append,
    List.any_cons, List.any_nil, Bool.or_false] at hparent ⊢
  refine ⟨⟨decide_eq_false ?_, hparent.2, hzero⟩, decide_eq_false ?_, hparent.2, hzero'⟩
  all_goals
    simp only [Key.parent, Store.accountsPath, Path.size, Path.bytes_append, haccounts,
      Path.bytes_cons, Path.bytes_nil]
    omega

end SpeakerHub
