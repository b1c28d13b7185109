import SpeakerHub.Proofs.Account.Registration
import SpeakerHub.Proofs.Discovery.Merging
import SpeakerHub.Proofs.Store.Obstacles

/-! # Recording what was found

What was found is recorded one after the other. Each time the record is read, merged and written
again, so what becomes of it is a matter of all finds with its id, in their order, and of whether it
can be read and written at all.

* **`Records`**, **`records`** — how it ends to record one find.
* **`publish_eq`** — the writer records all finds in their order.
* **`findsFor`** — the finds that are filed under an identifier.
* **`look_publish_of_unnamed`** — nothing is written where no record can be.
* **`Leaves`** — what is left of a record: as it was, or merged with all its finds.
* **`leaves_publish`** — recording finds leaves that of every record. -/

namespace SpeakerHub.Discovery

open Store

variable {s : Store} {account : String} {a id : Identifier} {f : Found} {found : List Found}
variable {d d' : Disk}

/-! ## One find -/

/-- A find is filed under an identifier. -/
def IsFor (account : String) (a id : Identifier) (f : Found) : Prop :=
  a.text = account ∧ id.text = f.id

instance (account : String) (a id : Identifier) (f : Found) : Decidable (IsFor account a id f) :=
  inferInstanceAs (Decidable (_ ∧ _))

/-- A find is filed under one identifier only. -/
theorem IsFor.unique {a' id' : Identifier} (h : IsFor account a id f)
    (h' : IsFor account a' id' f) : a = a' ∧ id = id' :=
  ⟨Key.text_inj.1 (h.1.trans h'.1.symm), Key.text_inj.1 (h.2.trans h'.2.symm)⟩

/-- **A record is written** where the store keeps it. -/
theorem writes_saveDevice (s : Store) (a id : Identifier) (device : Device) (d : Disk) :
    Writes ((Key.device a id).parent s) (Key.device a id).fileName device.toText d
      ((s.saveDevice a id device).run d).1 ((s.saveDevice a id device).run d).2 := by
  have hwrites : Writes (s.devicePath a id) "DeviceInfo.xml" device.toText d
      ((s.saveDevice a id device).run d).1 ((s.saveDevice a id device).run d).2 :=
    Store.writes _ _ _ d
  exact hwrites.of_device

/-- **A record can be saved** exactly if nothing is in its way. -/
theorem saveDevice_eq_ok_iff {device : Device} :
    ((s.saveDevice a id device).run d).1 = .ok () ↔ s.CanWrite (.device a id) d :=
  (writes_saveDevice s a id device d).eq_ok_iff

/-- **How it ends to record a find.** -/
inductive Records (s : Store) (account : String) (f : Found) (d : Disk) : Disk → Prop where
  /-- It is filed under no identifier. -/
  | unnamed (hnot : ∀ a id, ¬IsFor account a id f) : Records s account f d d
  /-- The record that there is cannot be read. -/
  | unreadable {a id : Identifier} {e : Error} (hfor : IsFor account a id f)
      (herror : s.deviceOrNew a id d = .error e) : Records s account f d d
  /-- The record is written, whether that goes well or not. -/
  | written {a id : Identifier} {known : Device} {r : Except Error Unit} {d' : Disk}
      (hfor : IsFor account a id f) (hknown : s.deviceOrNew a id d = .ok known)
      (h : Writes ((Key.device a id).parent s) (Key.device a id).fileName (merged f known).toText d
        r d') : Records s account f d d'

/-- **To record a find** ends in one of these ways. -/
theorem records (s : Store) (account : String) (f : Found) (d : Disk) :
    Records s account f d ((record s account f).run d).2 := by
  rcases ha : Identifier.ofText account with e | a
  · rw [record, ha]
    refine .unnamed fun a id hfor => ?_
    rw [Identifier.ofText_eq_ok_iff.2 hfor.1] at ha
    cases ha
  rcases hid : Identifier.ofText f.id with e | id
  · rw [record, ha, Action.ok_bind, hid]
    refine .unnamed fun a id hfor => ?_
    rw [Identifier.ofText_eq_ok_iff.2 hfor.2] at hid
    cases hid
  have hfor : IsFor account a id f :=
    ⟨Identifier.ofText_eq_ok_iff.1 ha, Identifier.ofText_eq_ok_iff.1 hid⟩
  rcases hknown : s.deviceOrNew a id d with e | known
  · rw [record, ha, Action.ok_bind, hid, Action.ok_bind, Action.run_look_bind_error hknown]
    exact .unreadable hfor hknown
  · rw [record, ha, Action.ok_bind, hid, Action.ok_bind, Action.run_look_bind_ok hknown]
    exact .written hfor hknown (writes_saveDevice s a id (merged f known) d)

namespace Records

variable (h : Records s account f d d')
include h

/-- What is in the way of a document stays in its way. -/
theorem canWrite_iff (k : Key) : s.CanWrite k d' ↔ s.CanWrite k d := by
  cases h with
  | unnamed _ => exact Iff.rfl
  | unreadable _ _ => exact Iff.rfl
  | written _ _ h => exact h.canWrite_iff k

/-- A record that the find is not for, or that cannot be written, still holds what it held. -/
theorem look_iff (hnot : ¬IsFor account a id f ∨ ¬s.CanWrite (.device a id) d) (i : Inode) :
    d'.look (s.recordPath a id) = .ok i ↔ d.look (s.recordPath a id) = .ok i := by
  rw [← Key.path_device]
  cases h with
  | unnamed _ => exact Iff.rfl
  | unreadable _ _ => exact Iff.rfl
  | @written a' id' known r d' hfor hknown h =>
    refine h.look_iff ?_ i
    by_cases hkey : Key.device a id = Key.device a' id'
    · -- The find is for this record, so it is the write that cannot go well.
      obtain ⟨rfl, rfl⟩ := Key.device.inj hkey
      have hcannot := hnot.resolve_left (not_not_intro hfor)
      cases r with
      | error e => exact .inr ⟨e, rfl⟩
      | ok => exact absurd (h.eq_ok_iff.1 rfl) hcannot
    · exact .inl hkey

/-- Another record looks as before, if names are short. -/
theorem look_of_other (hnot : ¬IsFor account a id f)
    (hshort : ((Key.device a id).path s).IsShort) :
    d'.look (s.recordPath a id) = d.look (s.recordPath a id) := by
  rw [← Key.path_device]
  cases h with
  | unnamed _ => rfl
  | unreadable _ _ => rfl
  | @written a' id' known r d' hfor hknown h =>
    refine look_kept_of_short h hshort (.inl fun hkey => ?_)
    obtain ⟨rfl, rfl⟩ := Key.device.inj hkey
    exact hnot hfor

/-- **A record is written** if it can be read and nothing is in its way. -/
theorem look_of_own (hfor : IsFor account a id f) (hcan : s.CanWrite (.device a id) d)
    {known : Device} (hknown : s.deviceOrNew a id d = .ok known) :
    d'.look (s.recordPath a id) = .ok (.file (merged f known).toText.toUTF8 d.now) := by
  cases h with
  | unnamed hnot => exact absurd hfor (hnot a id)
  | unreadable hfor' herror =>
    obtain ⟨rfl, rfl⟩ := hfor.unique hfor'
    cases hknown.symm.trans herror
  | written hfor' hknown' h =>
    obtain ⟨rfl, rfl⟩ := hfor.unique hfor'
    obtain rfl := Except.ok.inj (hknown.symm.trans hknown')
    obtain rfl := h.eq_ok_iff.2 hcan
    rw [← Key.path_device]
    exact h.look_of_ok

/-- A record that cannot be read is left. -/
theorem eq_of_unreadable (hfor : IsFor account a id f) {e : Error}
    (herror : s.deviceOrNew a id d = .error e) : d' = d := by
  cases h with
  | unnamed _ => rfl
  | unreadable _ _ => rfl
  | written hfor' hknown h =>
    obtain ⟨rfl, rfl⟩ := hfor.unique hfor'
    cases hknown.symm.trans herror

end Records

/-! ## All finds -/

/-- Messages are sent to the end of the queue. -/
theorem foldl_send (found : List Found) (w : Writer) :
    found.foldl (fun w f => w.send (.device f)) w
      = { w with queue := w.queue ++ found.map .device } := by
  induction found generalizing w with
  | nil => simp
  | cons f found ih =>
    rw [List.foldl_cons, ih]
    simp [Writer.send]

/-- Finds that are handled are recorded. -/
theorem foldl_handle (s : Store) (found : List Found) (w : Writer) (d : Disk) :
    (found.map .device).foldl (fun (w, d) m => Writer.handle s m w d) (w, d)
      = (w, found.foldl (fun d f => ((record s w.account f).run d).2) d) := by
  induction found generalizing d with
  | nil => rfl
  | cons f found ih => exact ih _

/-- **The writer records all finds** in their order. -/
theorem publish_eq (s : Store) (account : String) (found : List Found) (d : Disk) :
    publish s account found d = found.foldl (fun d f => ((record s account f).run d).2) d := by
  rw [publish, foldl_send]
  simp only [Writer.send, Writer.drain, List.nil_append, List.foldl_append, foldl_handle]
  rfl

@[simp] theorem publish_nil (s : Store) (account : String) (d : Disk) :
    publish s account [] d = d := by
  rw [publish_eq]
  rfl

@[simp] theorem publish_cons (s : Store) (account : String) (f : Found) (found : List Found)
    (d : Disk) : publish s account (f :: found) d
      = publish s account found ((record s account f).run d).2 := by
  rw [publish_eq, publish_eq]
  rfl

/-- What is in the way of a document stays in its way. -/
theorem canWrite_publish (account : String) (found : List Found) (d : Disk) (k : Key) :
    s.CanWrite k (publish s account found d) ↔ s.CanWrite k d := by
  induction found generalizing d with
  | nil => rw [publish_nil]
  | cons f found ih => rw [publish_cons, ih, (records s account f d).canWrite_iff]

/-- The finds that are filed under an identifier. -/
def findsFor (account : String) (a id : Identifier) (found : List Found) : List Found :=
  found.filter fun f => IsFor account a id f

@[simp] theorem findsFor_cons_of_isFor (hfor : IsFor account a id f) :
    findsFor account a id (f :: found) = f :: findsFor account a id found :=
  List.filter_cons_of_pos (decide_eq_true hfor)

@[simp] theorem findsFor_cons_of_not (hnot : ¬IsFor account a id f) :
    findsFor account a id (f :: found) = findsFor account a id found :=
  List.filter_cons_of_neg (by simpa using hnot)

/-! ## Documents that are no records -/

/-- A document of a device in directories with any names. -/
def recordIn (s : Store) (x y : Name) : Path :=
  s.accountsPath ++ [x, .text "devices", y, .text "DeviceInfo.xml"]

/-- A record is in directories that are named by identifiers. -/
theorem recordIn_text (s : Store) (a id : Identifier) :
    recordIn s (.text a.text) (.text id.text) = s.recordPath a id := by
  simp [recordIn, recordPath, devicePath, devicesPath, accountPath, Path.ofTexts]

/-- **Where no record can be** nothing is written. -/
theorem Records.look_of_unnamed (h : Records s account f d d') {x y : Name}
    (hnot : ∀ a id : Identifier, ¬(x = .text a.text ∧ y = .text id.text)) (i : Inode) :
    d'.look (recordIn s x y) = .ok i ↔ d.look (recordIn s x y) = .ok i := by
  cases h with
  | unnamed _ => exact Iff.rfl
  | unreadable _ _ => exact Iff.rfl
  | @written a id known r d' hfor hknown h =>
    by_cases hshort : (recordIn s x y).IsShort
    case neg => exact iff_of_false (mt Disk.isShort_of_look hshort) (mt Disk.isShort_of_look hshort)
    have hlook : d'.look (recordIn s x y) = d.look (recordIn s x y) := by
      -- All these documents are equally deep, so one is on the way to another only if it is that.
      refine h.look_kept hshort ?_ (.inl ?_) ?_
      · change ¬(Key.device a id).draft s <+: _
        rw [Key.draft_eq, recordIn, List.prefix_append_right_inj]
        simp +decide [Key.draftTail, Key.folder, Key.fileName, List.cons_prefix_cons]
      · change ¬(Key.device a id).path s <+: _
        rw [Key.path_eq, recordIn, List.prefix_append_right_inj]
        simp only [Key.tail, Key.folder, Key.fileName, List.cons_append, List.nil_append,
          List.cons_prefix_cons, List.nil_prefix, and_true, true_and]
        rintro ⟨hx, hy⟩
        exact hnot a id ⟨hx.symm, hy.symm⟩
      · rw [recordIn, Key.parent, List.prefix_append_right_inj]
        simp [Key.folder, List.cons_prefix_cons]
    rw [hlook]

/-- So it is with all finds. -/
theorem look_publish_of_unnamed {x y : Name}
    (hnot : ∀ a id : Identifier, ¬(x = .text a.text ∧ y = .text id.text)) (account : String)
    (found : List Found) (d : Disk) (i : Inode) :
    (publish s account found d).look (recordIn s x y) = .ok i
      ↔ d.look (recordIn s x y) = .ok i := by
  induction found generalizing d with
  | nil => rw [publish_nil]
  | cons f found ih => rw [publish_cons, ih, (records s account f d).look_of_unnamed hnot]

/-! ## All records -/

/-- **What finds leave of a record.** -/
inductive Leaves (s : Store) (a id : Identifier) (finds : List Found) (d d' : Disk) : Prop where
  /-- Nothing can be written, and what is there stays. -/
  | blocked (hcannot : ¬s.CanWrite (.device a id) d)
      (hlook : ∀ i, d'.look (s.recordPath a id) = .ok i ↔ d.look (s.recordPath a id) = .ok i)
  /-- There are no finds, or the record cannot be read. -/
  | kept (hcan : s.CanWrite (.device a id) d)
      (hwhy : finds = [] ∨ ∃ e, s.deviceOrNew a id d = .error e)
      (hlook : d'.look (s.recordPath a id) = d.look (s.recordPath a id))
  /-- The record is merged with all of them. -/
  | written {known : Device} {m : Int} (hcan : s.CanWrite (.device a id) d) (hfinds : finds ≠ [])
      (hknown : s.deviceOrNew a id d = .ok known)
      (hlook : d'.look (s.recordPath a id)
        = .ok (.file (rediscovered finds known).toText.toUTF8 m))

/-- What is known of a device depends on what is looked at. -/
theorem deviceOrNew_congr (h : d'.look (s.recordPath a id) = d.look (s.recordPath a id)) :
    s.deviceOrNew a id d' = s.deviceOrNew a id d := by
  have hdevice : s.device a id d' = s.device a id d := read_congr h Device.ofText?
  rw [deviceOrNew, deviceOrNew, hdevice]

/-- **Recording finds** leaves that of every record. -/
theorem leaves_publish (s : Store) (account : String) (a id : Identifier) (found : List Found)
    (d : Disk) :
    Leaves s a id (findsFor account a id found) d (publish s account found d) := by
  by_cases hcan : s.CanWrite (.device a id) d
  case neg =>
    -- What is in the way stays there, so no find is ever recorded.
    refine .blocked hcan fun i => ?_
    induction found generalizing d with
    | nil => rw [publish_nil]
    | cons f found ih =>
      have hrecords := records s account f d
      rw [publish_cons, ih _ (mt (hrecords.canWrite_iff _).1 hcan), hrecords.look_iff (.inr hcan)]
  -- By induction on the finds, for every disk: the rest of them meet what the first one left.
  induction found generalizing d with
  | nil => exact .kept hcan (.inl rfl) (by rw [publish_nil])
  | cons f found ih =>
    have hrecords := records s account f d
    rw [publish_cons]
    generalize ((record s account f).run d).2 = d₁ at hrecords
    have hcan₁ : s.CanWrite (.device a id) d₁ := (hrecords.canWrite_iff _).2 hcan
    have hrest := ih d₁ hcan₁
    by_cases hfor : IsFor account a id f
    case neg =>
      -- The find is for another record, and this one looks as before.
      have hlook := hrecords.look_of_other hfor hcan.isShort_path
      rw [findsFor_cons_of_not hfor]
      cases hrest with
      | blocked hcannot _ => exact absurd hcan₁ hcannot
      | kept _ hwhy hlook' =>
        rw [deviceOrNew_congr hlook] at hwhy
        exact .kept hcan hwhy (hlook'.trans hlook)
      | written _ hfinds hknown hlook' =>
        rw [deviceOrNew_congr hlook] at hknown
        exact .written hcan hfinds hknown hlook'
    rw [findsFor_cons_of_isFor hfor]
    rcases hknown : s.deviceOrNew a id d with e | known
    · obtain rfl := hrecords.eq_of_unreadable hfor hknown
      cases hrest with
      | blocked hcannot _ => exact absurd hcan hcannot
      | kept _ _ hlook => exact .kept hcan (.inr ⟨e, hknown⟩) hlook
      | written _ _ hknown' _ => cases hknown.symm.trans hknown'
    · -- The next find reads what this one left.
      have hlook := hrecords.look_of_own hfor hcan hknown
      have hknown₁ : s.deviceOrNew a id d₁ = .ok (merged f known).stored :=
        Account.deviceOrNew_of_look hlook
      cases hrest with
      | blocked hcannot _ => exact absurd hcan₁ hcannot
      | kept _ hwhy hlook' =>
        rcases hwhy with hnone | ⟨e, herror⟩
        · rw [hlook, ← Device.toText_stored] at hlook'
          rw [hnone]
          exact .written hcan (List.cons_ne_nil f []) hknown hlook'
        · cases hknown₁.symm.trans herror
      | written _ hfinds hknown' hlook' =>
        obtain rfl := Except.ok.inj (hknown₁.symm.trans hknown')
        exact .written hcan (List.cons_ne_nil f _) hknown hlook'

end SpeakerHub.Discovery
