import SpeakerHub.Proofs.Store.Changes

/-! # The listing of devices

All devices are listed whose records can be read, account by account and device by device, each in
the order of the bytes of the names of their directories. Whatever else is on the disk is passed
over.

* **`Utf8.encode_lt_iff`**, **`Identifier.encode_lt_iff`** — identifiers have the same order by
  their bytes and by their characters.
* **`PlacedDevice`** — a device with the directories that it is in;
  **`PlacedDevice.Precedes`** — the order of these.
* **`Store.isListing_of_directories`**, **`exists_directories`** — what is listed of a directory,
  and that it is.
* **`Store.placedIn`**, **`mem_placedIn`**, **`pairwise_placedIn`** — the devices of one account.
* **`Store.placedInAll`**, **`mem_placedInAll`**, **`pairwise_placedInAll`** — those of all
  accounts.
* **`listing_is_complete`** — what is listed, and in which order. -/

namespace SpeakerHub

/-! ## The order of identifiers -/

namespace Utf8

/-- Text is encoded character by character. -/
theorem encode_eq_flatMap (text : String) :
    encode text = text.toList.flatMap String.utf8EncodeChar := by
  have htext : text = String.ofList text.toList := String.ofList_toList.symm
  calc encode text
      = (String.ofList text.toList).toByteArray.data.toList := by
        rw [← htext]
        rfl
    _ = text.toList.flatMap String.utf8EncodeChar := by
        rw [String.toByteArray_ofList, List.utf8Encode, List.data_toByteArray]

/-- Characters of ASCII are one byte each. -/
theorem flatMap_utf8EncodeChar {text : List Char} (h : ∀ c ∈ text, c.toNat < 128) :
    text.flatMap String.utf8EncodeChar = text.map fun c => c.val.toUInt8 := by
  induction text with
  | nil => rfl
  | cons c text ih =>
    obtain ⟨hc, htext⟩ := List.forall_mem_cons.1 h
    have hsize : c.utf8Size = 1 := by
      rw [Char.utf8Size_eq_one_iff, UInt32.le_iff_toNat_le]
      exact Nat.le_of_lt_succ hc
    rw [List.flatMap_cons, String.utf8EncodeChar_eq_singleton hsize, ih htext, List.map_cons]
    rfl

/-- The bytes of characters of ASCII are in the order of the characters. -/
theorem map_toUInt8_lt_iff {xs ys : List Char} (hxs : ∀ c ∈ xs, c.toNat < 128)
    (hys : ∀ c ∈ ys, c.toNat < 128) :
    (xs.map fun c => c.val.toUInt8) < (ys.map fun c => c.val.toUInt8) ↔ xs < ys := by
  induction xs generalizing ys with
  | nil => cases ys <;> simp
  | cons x xs ih =>
    cases ys with
    | nil => simp
    | cons y ys =>
      obtain ⟨hx, hxs⟩ := List.forall_mem_cons.1 hxs
      obtain ⟨hy, hys⟩ := List.forall_mem_cons.1 hys
      have hbyte {c : Char} (hc : c.toNat < 128) : c.val.toUInt8.toNat = c.toNat := by
        rw [UInt32.toNat_toUInt8]
        exact Nat.mod_eq_of_lt (hc.trans (by decide))
      have hlt : x.val.toUInt8 < y.val.toUInt8 ↔ x < y := by
        rw [UInt8.lt_iff_toNat_lt, hbyte hx, hbyte hy]
        rfl
      have heq : x.val.toUInt8 = y.val.toUInt8 ↔ x = y := by
        rw [← UInt8.toNat_inj, hbyte hx, hbyte hy, Char.toNat_inj]
      rw [List.map_cons, List.map_cons, List.cons_lt_cons_iff, List.cons_lt_cons_iff, ih hxs hys,
        hlt, heq]

/-- **Texts of ASCII** have the same order by their bytes and by their characters. -/
theorem encode_lt_iff {x y : String} (hx : ∀ c ∈ x.toList, c.toNat < 128)
    (hy : ∀ c ∈ y.toList, c.toNat < 128) : encode x < encode y ↔ x < y := by
  rw [encode_eq_flatMap, encode_eq_flatMap, flatMap_utf8EncodeChar hx, flatMap_utf8EncodeChar hy,
    map_toUInt8_lt_iff hx hy, String.lt_iff]

end Utf8

namespace Identifier

/-- Identifiers are made of ASCII. -/
theorem toNat_lt_of_isAllowed {c : Char} (h : isAllowed c = true) : c.toNat < 128 := by
  simp only [isAllowed, Bool.or_eq_true, Bool.and_eq_true, decide_eq_true_eq, beq_iff_eq,
    Char.le_def, UInt32.le_iff_toNat_le] at h
  -- Two ranges of letters, one of digits, and three marks.
  rcases h with (((((h | h) | h) | rfl) | rfl) | rfl)
  · exact h.2.trans_lt (by decide)
  · exact h.2.trans_lt (by decide)
  · exact h.2.trans_lt (by decide)
  · decide
  · decide
  · decide

/-- **Identifiers** have the same order by their bytes and by their characters. -/
theorem encode_lt_iff {i j : Identifier} :
    Utf8.encode i.text < Utf8.encode j.text ↔ i.text < j.text := by
  have hascii (i : Identifier) : ∀ c ∈ i.text.toList, c.toNat < 128 := fun c hc =>
    toNat_lt_of_isAllowed (List.all_eq_true.1 i.valid.2.2.2 c hc)
  exact Utf8.encode_lt_iff (hascii i) (hascii j)

end Identifier

/-! ## Devices and their directories -/

/-- A device and the directories that it is in. -/
structure PlacedDevice where
  /-- The account. -/
  account : Identifier
  /-- The name of its directory. -/
  id : Identifier
  /-- The record. -/
  device : Device

namespace PlacedDevice

/-- What is listed of a device. -/
def filed (p : PlacedDevice) : FiledDevice :=
  { account := p.account, device := p.device }

/-- **The order of devices**: by the bytes of the names of their accounts, and then of their own
directories. -/
def Precedes (p q : PlacedDevice) : Prop :=
  Utf8.encode p.account.text < Utf8.encode q.account.text
    ∨ p.account = q.account ∧ Utf8.encode p.id.text < Utf8.encode q.id.text

/-- It is the order by their characters, too. -/
theorem precedes_iff {p q : PlacedDevice} : p.Precedes q
    ↔ p.account.text < q.account.text ∨ p.account = q.account ∧ p.id.text < q.id.text := by
  rw [Precedes, Identifier.encode_lt_iff, Identifier.encode_lt_iff]

/-- No device precedes one that precedes it. -/
theorem Precedes.asymm {p q : PlacedDevice} (h : p.Precedes q) : ¬q.Precedes p := by
  rw [precedes_iff] at h ⊢
  rintro (haccount | ⟨heq, hid⟩) <;> rcases h with h | ⟨heq', h⟩
  · exact String.lt_asymm h haccount
  · exact String.lt_irrefl _ (heq' ▸ haccount)
  · exact String.lt_irrefl _ (heq ▸ h)
  · exact String.lt_asymm h hid

/-- An ordered list is the only one with its devices. -/
theorem eq_of_pairwise {ps qs : List PlacedDevice} (hps : ps.Pairwise Precedes)
    (hqs : qs.Pairwise Precedes) (hmem : ∀ p, p ∈ ps ↔ p ∈ qs) : ps = qs := by
  -- None precedes itself, so none is there twice.
  have hnodup {ps : List PlacedDevice} (h : ps.Pairwise Precedes) : ps.Nodup :=
    h.imp fun hpq heq => (heq ▸ hpq).asymm (heq ▸ hpq)
  have hperm : ps.Perm qs := (List.perm_ext_iff_of_nodup (hnodup hps) (hnodup hqs)).2 hmem
  exact hperm.eq_of_pairwise (fun _ _ _ _ hpq hqp => absurd hqp hpq.asymm) hps hqs

end PlacedDevice

namespace Store

variable {s : Store} {d : Disk} {a id : Identifier} {device : Device} {names : List String}

/-! ## Directories -/

/-- **The names that are listed** are those of the directories, if anything is listed. -/
theorem isListing_of_directories {p : Path} (h : directories p d = .ok names) :
    Disk.IsListing names ∧ ∀ x, x ∈ names ↔ d.HasDirectory (p ++ [.text x]) := by
  by_cases hdirectory : ∃ m, d.look p = .ok (.directory m)
  · obtain ⟨m, hm⟩ := hdirectory
    obtain ⟨names', hok, hlisting, hmem⟩ := Disk.directories_of_directory hm
    rw [directories, hok] at h
    obtain rfl := Except.ok.inj h
    exact ⟨hlisting, hmem⟩
  -- Something that is no directory is only listed if nothing is there at all.
  have hnames := Disk.directories_of_not (not_exists.1 hdirectory)
  have hmissing : d.look p = .error .notFound ∧ names = [] := by
    rw [directories, hnames] at h
    cases hlook : d.look p with
    | ok i =>
      rw [hlook] at h
      cases h
    | error fault =>
      rw [hlook] at h
      cases fault with
      | notFound => exact ⟨rfl, (Except.ok.inj h).symm⟩
      | notDirectory | isDirectory | badName => cases h
  obtain ⟨hlook, rfl⟩ := hmissing
  -- A directory in it would lie in a directory, and that would be there.
  refine ⟨⟨.nil, .nil⟩, fun x => iff_of_false List.not_mem_nil ?_⟩
  rintro ⟨m, hm⟩
  obtain ⟨m', hm'⟩ := Entry.view_parent hm
  by_cases husable : p.isUnusable
  · rw [Disk.look_of_unusable husable] at hlook
    cases hlook
  · rw [Disk.look_of_usable (Bool.not_eq_true _ ▸ husable), Entry.look_of_view hm'] at hlook
    split at hlook <;> cases hlook

/-- **Whatever is on the way to something** is listed. -/
theorem exists_directories {p q : Path} {i : Inode} (h : d.look q = .ok i) (hp : p <+: q)
    (hne : p ≠ q) : ∃ names, directories p d = .ok names := by
  obtain ⟨m, hm⟩ := Entry.view_of_isPrefix (Disk.view_of_look h) hp hne
  obtain ⟨rest, rfl⟩ := hp
  have hshort : p.IsShort := (Path.isShort_append.1 (Disk.isShort_of_look h)).1
  have husable : p.isUnusable = false := Disk.isUnusable_of_append (Disk.isUnusable_of_look h)
  obtain ⟨names, hok, -⟩ :=
    directories_eq_ok hshort husable (Entry.not_isBlocked_of_directory hm)
  exact ⟨names, hok⟩

/-- **A record that can be read** is in its directories, and these are listed. -/
theorem listed_of_device (h : s.device a id d = .ok device) :
    d.HasDirectory (s.accountPath a) ∧ d.HasDirectory (s.devicePath a id)
      ∧ (∃ names, directories s.accountsPath d = .ok names)
      ∧ ∃ names, s.deviceNames a d = .ok names := by
  obtain ⟨i, hlook⟩ := exists_look_of_read h
  have hdevice : d.HasDirectory (s.devicePath a id) := Entry.view_parent (Disk.view_of_look hlook)
  have hdevices : s.devicesPath a <+: s.devicePath a id := List.prefix_append _ _
  have haccount : s.accountPath a <+: s.devicesPath a := List.prefix_append _ _
  have haccounts : s.accountsPath <+: s.accountPath a := List.prefix_append _ _
  have hrecord : s.devicePath a id <+: s.recordPath a id := List.prefix_append _ _
  -- A path with more names in it is another one.
  have hne {p q : Path} (hpq : p.length < q.length) : p ≠ q := fun heq => by
    rw [heq] at hpq
    exact lt_irrefl _ hpq
  refine ⟨hdevice.of_isPrefix (haccount.trans hdevices), hdevice, ?_, ?_⟩
  · refine exists_directories hlook (((haccounts.trans haccount).trans hdevices).trans hrecord)
      (hne ?_)
    simp [recordPath, devicePath, devicesPath, accountPath, Path.ofTexts]
  · refine exists_directories hlook (hdevices.trans hrecord) (hne ?_)
    simp [recordPath, devicePath, Path.ofTexts]

/-- **Identifiers among names** are in the order of the names. -/
theorem pairwise_identifiers (h : Disk.IsListing names) :
    (names.filterMap Identifier.ofText?).Pairwise fun i j => i.text < j.text := by
  have hlt : names.Pairwise (· < ·) := (h.sorted.and h.nodup).imp fun ⟨hle, hne⟩ =>
    String.not_le.1 fun hge => hne (String.le_antisymm hle hge)
  rw [List.pairwise_filterMap]
  refine hlt.imp fun hxy i hi j hj => ?_
  rwa [Identifier.ofText?_eq_some_iff.1 hi, Identifier.ofText?_eq_some_iff.1 hj]

/-- Identifiers are among names if their texts are. -/
theorem mem_identifiers {i : Identifier} :
    i ∈ names.filterMap Identifier.ofText? ↔ i.text ∈ names := by
  simp only [List.mem_filterMap, Identifier.ofText?_eq_some_iff, exists_eq_right']

/-! ## The devices of an account -/

/-- A device at its place, if its record can be read. -/
def placed? (s : Store) (d : Disk) (account id : Identifier) : Option PlacedDevice :=
  (s.device account id d).toOption.map fun device => { account, id, device }

/-- The devices of an account at their places. -/
def placedIn (s : Store) (d : Disk) (account : Identifier) : List PlacedDevice :=
  match s.deviceNames account d with
  | .ok names => (names.filterMap Identifier.ofText?).filterMap (s.placed? d account)
  | .error _ => []

/-- A device is where its record can be read. -/
theorem placed?_eq_some_iff {p : PlacedDevice} :
    s.placed? d a id = some p
      ↔ p.account = a ∧ p.id = id ∧ s.device p.account p.id d = .ok p.device := by
  cases p with
  | mk account id' device =>
    rw [placed?]
    cases hdevice : s.device a id d with
    | error e =>
      refine iff_of_false nofun ?_
      rintro ⟨rfl, rfl, hok⟩
      cases hdevice.symm.trans hok
    | ok known =>
      constructor
      · intro h
        obtain ⟨rfl, rfl, rfl⟩ := PlacedDevice.mk.inj (Option.some.inj h)
        exact ⟨rfl, rfl, hdevice⟩
      · rintro ⟨rfl, rfl, hok⟩
        obtain rfl := Except.ok.inj (hdevice.symm.trans hok)
        rfl

/-- What is listed for an account are its devices. -/
theorem readableDevices_eq (s : Store) (d : Disk) (a : Identifier) :
    s.readableDevices d a = (s.placedIn d a).map PlacedDevice.filed := by
  rw [readableDevices, placedIn]
  cases s.deviceNames a d with
  | error e => rfl
  | ok names =>
    rw [List.map_filterMap]
    refine congrArg (List.filterMap · _) (funext fun id => ?_)
    rw [placed?]
    cases s.device a id d <;> rfl

/-- **A device is listed for its account** if its record can be read. -/
theorem mem_placedIn {p : PlacedDevice} :
    p ∈ s.placedIn d a ↔ p.account = a ∧ s.device p.account p.id d = .ok p.device := by
  constructor
  · intro h
    rw [placedIn] at h
    split at h
    · obtain ⟨id, -, hp⟩ := List.mem_filterMap.1 h
      obtain ⟨haccount, -, hdevice⟩ := placed?_eq_some_iff.1 hp
      exact ⟨haccount, hdevice⟩
    · cases h
  · rintro ⟨rfl, hdevice⟩
    -- No other entry can hide the directory that the record is in.
    obtain ⟨-, hdirectory, -, names, hnames⟩ := listed_of_device hdevice
    rw [placedIn, hnames, List.mem_filterMap]
    refine ⟨p.id, mem_identifiers.2 ?_, placed?_eq_some_iff.2 ⟨rfl, rfl, hdevice⟩⟩
    exact ((isListing_of_directories hnames).2 p.id.text).2 hdirectory

/-- **The devices of an account** are listed in order. -/
theorem pairwise_placedIn (s : Store) (d : Disk) (a : Identifier) :
    (s.placedIn d a).Pairwise PlacedDevice.Precedes := by
  rw [placedIn]
  split
  next names hnames =>
    rw [List.pairwise_filterMap]
    refine (pairwise_identifiers (isListing_of_directories hnames).1).imp fun hlt p hp q hq => ?_
    obtain ⟨hpa, rfl, -⟩ := placed?_eq_some_iff.1 hp
    obtain ⟨hqa, rfl, -⟩ := placed?_eq_some_iff.1 hq
    exact PlacedDevice.precedes_iff.2 (.inr ⟨hpa.trans hqa.symm, hlt⟩)
  next => exact .nil

/-! ## All devices -/

/-- The devices of all accounts with some names, at their places. -/
def placedInAll (s : Store) (d : Disk) (names : List String) : List PlacedDevice :=
  (names.filterMap Identifier.ofText?).flatMap (s.placedIn d)

/-- All devices are listed if the directories of accounts are. -/
theorem allDevices_eq_ok_iff {filed : List FiledDevice} :
    s.allDevices none d = .ok filed ↔ ∃ names, directories s.accountsPath d = .ok names
      ∧ filed = (s.placedInAll d names).map PlacedDevice.filed := by
  have hfiled (names : List String) :
      (names.filterMap Identifier.ofText?).flatMap (s.readableDevices d)
        = (s.placedInAll d names).map PlacedDevice.filed := by
    rw [placedInAll, List.map_flatMap, funext (s.readableDevices_eq d)]
  rw [allDevices]
  cases directories s.accountsPath d with
  | error e =>
    refine iff_of_false (fun h => by cases h) ?_
    rintro ⟨names, hnames, -⟩
    cases hnames
  | ok names =>
    constructor
    · intro h
      exact ⟨names, rfl, (hfiled names) ▸ (Except.ok.inj h).symm⟩
    · rintro ⟨names', hnames, rfl⟩
      obtain rfl := Except.ok.inj hnames
      exact congrArg Except.ok (hfiled names)

/-- The devices of one account are listed. -/
theorem allDevices_some (s : Store) (a : Identifier) (d : Disk) :
    s.allDevices (some a) d = .ok ((s.placedIn d a).map PlacedDevice.filed) := by
  rw [← readableDevices_eq, ← List.flatMap_singleton (s.readableDevices d) a]
  rfl

section

variable (h : directories s.accountsPath d = .ok names)
include h

/-- **A device is listed** if its record can be read. -/
theorem mem_placedInAll {p : PlacedDevice} :
    p ∈ s.placedInAll d names ↔ s.device p.account p.id d = .ok p.device := by
  rw [placedInAll, List.mem_flatMap]
  constructor
  · rintro ⟨a, -, hp⟩
    exact (mem_placedIn.1 hp).2
  · intro hdevice
    obtain ⟨hdirectory, -⟩ := listed_of_device hdevice
    refine ⟨p.account, mem_identifiers.2 ?_, mem_placedIn.2 ⟨rfl, hdevice⟩⟩
    exact ((isListing_of_directories h).2 p.account.text).2 hdirectory

/-- **All devices** are listed in order. -/
theorem pairwise_placedInAll : (s.placedInAll d names).Pairwise PlacedDevice.Precedes := by
  rw [placedInAll, List.pairwise_flatMap]
  refine ⟨fun a _ => s.pairwise_placedIn d a, ?_⟩
  -- Devices of two accounts stand in the order of these.
  refine (pairwise_identifiers (isListing_of_directories h).1).imp fun hlt p hp q hq => ?_
  rw [← (mem_placedIn.1 hp).1, ← (mem_placedIn.1 hq).1] at hlt
  exact PlacedDevice.precedes_iff.2 (.inl hlt)

/-- **The devices of an account** are those of all that are in it. -/
theorem filter_placedInAll (a : Identifier) :
    (s.placedInAll d names).filter (·.account = a) = s.placedIn d a := by
  refine PlacedDevice.eq_of_pairwise ((pairwise_placedInAll h).filter _) (s.pairwise_placedIn d a)
    fun p => ?_
  rw [List.mem_filter, mem_placedInAll h, mem_placedIn, decide_eq_true_iff, and_comm]

end

end Store

/-- **The listing of devices is complete, and nothing gets in its way.** For every state of the
disk in which all devices are listed, these are, each once and in the order of the bytes of the
names of their accounts and then of their own directories, the ones that have

* a directory of an account, named by an identifier,
* in its directory of devices a directory, named by an identifier,
* and in that a record that can be read, which is listed.

Nothing else on the disk matters, and the listing for one account is the part of it with that
account. It is only not to be had where no record can be read. -/
theorem listing_is_complete (s : Store) (d : Disk) :
    (∀ filed, s.allDevices none d = .ok filed →
      ∃ placed : List PlacedDevice, filed = placed.map PlacedDevice.filed
        ∧ placed.Pairwise PlacedDevice.Precedes
        ∧ (∀ p : PlacedDevice, p ∈ placed ↔ d.HasDirectory (s.accountPath p.account)
          ∧ d.HasDirectory (s.devicePath p.account p.id)
          ∧ s.device p.account p.id d = .ok p.device)
        ∧ ∀ account, s.allDevices (some account) d
          = .ok ((placed.filter (·.account = account)).map PlacedDevice.filed))
      ∧ ∀ account id device, s.device account id d = .ok device →
        ∃ filed, s.allDevices none d = .ok filed := by
  constructor
  · intro filed hfiled
    obtain ⟨names, hnames, rfl⟩ := Store.allDevices_eq_ok_iff.1 hfiled
    refine ⟨s.placedInAll d names, rfl, Store.pairwise_placedInAll hnames, fun p => ?_,
      fun account => ?_⟩
    · rw [Store.mem_placedInAll hnames]
      refine ⟨fun hdevice => ?_, fun h => h.2.2⟩
      obtain ⟨haccount, hdirectory, -⟩ := Store.listed_of_device hdevice
      exact ⟨haccount, hdirectory, hdevice⟩
    · rw [Store.filter_placedInAll hnames, Store.allDevices_some]
  · intro account id device hdevice
    obtain ⟨-, -, ⟨names, hnames⟩, -⟩ := Store.listed_of_device hdevice
    exact ⟨_, Store.allDevices_eq_ok_iff.2 ⟨names, hnames, rfl⟩⟩

/-- A device is listed among a file, a name that is no identifier, one that is no text, and a record
that cannot be read. -/
theorem listed_among_others :
    let s : Store := { directory := [] }
    let a : Identifier := { text := "A", valid := by decide }
    let id : Identifier := { text := "D", valid := by decide }
    let record (text : String) : Entry :=
      .directory [(.text "DeviceInfo.xml", .file text.toUTF8 0)] 0
    let devices : Entry := .directory
      [(.bytes [255], record "<info/>"), (.text "E", record "<info"),
        (.text "D", record "<info deviceID=\"D\"/>"), (.text "F", .file ByteArray.empty 0)] 0
    let accounts : Entry := .directory [(.text "B", .file ByteArray.empty 0),
      (.text "A B", .directory [(.text "devices", devices)] 0),
      (.text "A", .directory [(.text "devices", devices)] 0)] 0
    let d : Disk := { root := .directory [(.text "accounts", accounts)] 0, clock := 0 }
    let speaker : PlacedDevice := { account := a, id, device := { id := "D" } }
    ∃ (filed : List FiledDevice) (placed : List PlacedDevice), s.allDevices none d = .ok filed
      ∧ filed = placed.map PlacedDevice.filed ∧ speaker ∈ placed := by
  intro s a id record devices accounts d speaker
  have hdevice : s.device a id d = .ok speaker.device := by decide
  obtain ⟨filed, hfiled⟩ := (listing_is_complete s d).2 a id _ hdevice
  obtain ⟨placed, heq, -, hmem, -⟩ := (listing_is_complete s d).1 filed hfiled
  obtain ⟨haccount, hdirectory, -⟩ := Store.listed_of_device hdevice
  exact ⟨filed, placed, hfiled, heq, (hmem _).2 ⟨haccount, hdirectory, hdevice⟩⟩

end SpeakerHub
