import Mathlib.Data.List.Nodup
import SpeakerHub.Disk.Basic
import SpeakerHub.Proofs.Disk.View

/-! # Steps on the disk

What each step on the disk needs, and what can be seen afterwards: every path shows what it showed
before, apart from those that the step is about.

* **`Disk.view`**, **`Disk.look`** — what is at a path, and what looking there gives.
* **`Disk.Makes`**, **`view_makeDirectories_of_makes`**, **`view_makeDirectories_of_not`** — making
  directories.
* **`Disk.CanPut`**, **`put_of_canPut`**, **`view_put`** — writing a file.
* **`rename_of_canPut`**, **`view_rename`** — renaming one.
* **`removeTree_of_directory`**, **`view_removeTree`** — removing a directory.
* **`directories_of_directory`**, **`directories_congr`** — listing directories. -/

namespace SpeakerHub

namespace Entry

/-- Putting a file where there is no directory shows it there and nowhere else. -/
theorem view_alter_file {e : Entry} {p : Path} {name : Name} {m : Int}
    (hparent : e.view p = some (.directory m))
    (hfree : ∀ m', e.view (p ++ [name]) ≠ some (.directory m')) (content : ByteArray)
    (modified : Int) (q : Path) :
    (e.alter (fun _ => some (.file content modified)) (p ++ [name])).view q
      = if q = p ++ [name] then some (.file content modified) else e.view q := by
  by_cases hq : p ++ [name] <+: q
  · obtain ⟨rest, rfl⟩ := hq
    rw [List.append_assoc, List.singleton_append, view_alter_append hparent, Option.bind_some]
    cases rest with
    | nil => simp
    | cons n rest =>
      -- Nothing was below the place, because there was no directory in it.
      have hnone : e.view (p ++ name :: n :: rest) = none := by
        rw [Option.eq_none_iff_forall_ne_some]
        intro i hi
        have hsplit : p ++ name :: n :: rest = (p ++ [name]) ++ n :: rest := by simp
        rw [hsplit] at hi
        obtain ⟨m', hm'⟩ := view_parent hi
        exact hfree m' hm'
      rw [hnone, view_file_cons, if_neg (by simp)]
  · have hne : q ≠ p ++ [name] := by
      rintro rfl
      exact hq List.prefix_rfl
    rw [view_alter_of_not_isPrefix hq, if_neg hne]

/-- Removing an entry removes what is in it, and nothing else. -/
theorem view_alter_none {e : Entry} {p : Path} {m : Int} (hparent : e.view p = some (.directory m))
    (name : Name) (q : Path) :
    (e.alter (fun _ => none) (p ++ [name])).view q
      = if p ++ [name] <+: q then none else e.view q := by
  by_cases hq : p ++ [name] <+: q
  · rw [if_pos hq]
    obtain ⟨rest, rfl⟩ := hq
    rw [List.append_assoc, List.singleton_append, view_alter_append hparent, Option.bind_none]
  · rw [if_neg hq, view_alter_of_not_isPrefix hq]

/-- Removing a file removes nothing else. -/
theorem view_alter_none_of_file {e : Entry} {p : Path} {name : Name} {content : ByteArray}
    {modified : Int} (hfile : e.view (p ++ [name]) = some (.file content modified)) (q : Path) :
    (e.alter (fun _ => none) (p ++ [name])).view q
      = if q = p ++ [name] then none else e.view q := by
  obtain ⟨m, hm⟩ := view_parent hfile
  rw [view_alter_none hm]
  by_cases hq : p ++ [name] <+: q
  · by_cases hne : q = p ++ [name]
    · rw [if_pos hq, if_pos hne]
    · -- Below a file there was nothing that could be taken away with it.
      rw [if_pos hq, if_neg hne, eq_comm, Option.eq_none_iff_forall_ne_some]
      intro i hi
      obtain ⟨m', hm'⟩ := view_of_isPrefix hi hq (Ne.symm hne)
      rw [hfile] at hm'
      cases hm'
  · have hne : q ≠ p ++ [name] := by
      rintro rfl
      exact hq List.prefix_rfl
    rw [if_neg hq, if_neg hne]

end Entry

namespace Disk

/-! ## Looking -/

/-- What is at a path, whatever its length. -/
def view (d : Disk) (p : Path) : Option Inode :=
  d.root.view p

/-- What a path leads to by itself, or what is in the way. -/
def look (d : Disk) (p : Path) : Except Fault Inode :=
  (d.find p).map Entry.inode

/-- Looking along a path that can be followed. -/
theorem look_of_usable {p : Path} (h : p.isUnusable = false) (d : Disk) :
    d.look p = d.root.look p := by
  rw [look, find, h]
  rfl

/-- A path that cannot be followed leads nowhere. -/
theorem look_of_unusable {p : Path} (h : p.isUnusable = true) (d : Disk) :
    d.look p = .error .badName := by
  rw [look, find, h]
  rfl

/-- A path that can be followed can be followed up to any place. -/
theorem isUnusable_of_append {p q : Path} (h : Path.isUnusable (p ++ q) = false) :
    p.isUnusable = false := by
  have hsize : p.size ≤ Path.size (p ++ q) := by
    simp only [Path.size, Path.bytes_append]
    omega
  simp only [Path.isUnusable, Bool.or_eq_false_iff, decide_eq_false_iff_not, List.any_append]
    at h ⊢
  exact ⟨by omega, h.2.1⟩

/-- **Looking goes on by one name.** -/
theorem look_concat {p : Path} {name : Name} (h : Path.isUnusable (p ++ [name]) = false)
    (d : Disk) :
    d.look (p ++ [name]) = (d.look p).bind fun
      | .file .. => .error .notDirectory
      | .directory _ =>
        if name.isTooLong then .error .badName
        else
          match d.view (p ++ [name]) with
          | some i => .ok i
          | none => .error .notFound := by
  rw [look_of_usable h, look_of_usable (isUnusable_of_append h), Entry.look_concat]
  rfl

/-- A path that leads somewhere can be followed. -/
theorem isUnusable_of_look {d : Disk} {p : Path} {i : Inode} (h : d.look p = .ok i) :
    p.isUnusable = false := by
  by_contra hp
  rw [look_of_unusable (Bool.not_eq_false _ ▸ hp)] at h
  cases h

/-- What is looked at is seen. -/
theorem view_of_look {d : Disk} {p : Path} {i : Inode} (h : d.look p = .ok i) :
    d.view p = some i := by
  rw [look_of_usable (isUnusable_of_look h)] at h
  exact Entry.view_of_look h

/-- What has taken the place of something that could be looked at can be looked at. -/
theorem look_of_look {d d' : Disk} {p : Path} {i j : Inode} (h : d.look p = .ok i)
    (hview : d'.view p = some j) : d'.look p = .ok j := by
  have husable := isUnusable_of_look h
  have hlook : d.root.look p = .ok i := look_of_usable husable d ▸ h
  rw [Entry.look_of_view (Entry.view_of_look hlook)] at hlook
  rw [look_of_usable husable, Entry.look_of_view hview]
  split at hlook
  · cases hlook
  · exact if_neg ‹_›

/-- There is a file at a path. -/
def HasFile (d : Disk) (p : Path) : Prop :=
  ∃ content modified, d.view p = some (.file content modified)

/-- There is a directory at a path. -/
def HasDirectory (d : Disk) (p : Path) : Prop :=
  ∃ modified, d.view p = some (.directory modified)

/-- All that leads to a directory are directories. -/
theorem HasDirectory.of_isPrefix {d : Disk} {p q : Path} (h : d.HasDirectory q) (hp : p <+: q) :
    d.HasDirectory p := by
  obtain ⟨m, hm⟩ := h
  by_cases hpq : p = q
  · exact ⟨m, hpq ▸ hm⟩
  · exact Entry.view_of_isPrefix hm hp hpq

/-- What is at a path is not both. -/
theorem HasDirectory.not_hasFile {d : Disk} {p : Path} (h : d.HasDirectory p) : ¬d.HasFile p := by
  rintro ⟨content, modified, hfile⟩
  obtain ⟨m, hm⟩ := h
  rw [hm] at hfile
  cases hfile

/-- **Looking is local**: along short names it depends on what is at the path and on the files on
the way. -/
theorem look_congr_of_short {d d' : Disk} {p : Path} (h : p.IsShort) (hview : d'.view p = d.view p)
    (hfiles : ∀ q, q <+: p → (d'.HasFile q ↔ d.HasFile q)) : d'.look p = d.look p := by
  have hblocked : d'.root.IsBlocked p ↔ d.root.IsBlocked p :=
    exists_congr fun q => and_congr_right (hfiles q)
  by_cases hp : p.isUnusable
  · rw [look_of_unusable hp, look_of_unusable hp]
  · rw [Bool.not_eq_true] at hp
    rw [look_of_usable hp, look_of_usable hp, Entry.look_of_short h, Entry.look_of_short h]
    rw [view, view] at hview
    rw [hview]
    cases d.root.view p with
    | some i => rfl
    | none =>
      by_cases hb : d.root.IsBlocked p
      · simp only [if_pos hb, if_pos (hblocked.2 hb)]
      · simp only [if_neg hb, if_neg (mt hblocked.1 hb)]

/-! ## Making directories -/

/-- Making directories along a path makes one at `q`. -/
structure Makes (d : Disk) (p q : Path) : Prop where
  /-- The path can be followed. -/
  usable : p.isUnusable = false
  /-- It comes by. -/
  along : q <+: p
  /-- Nothing is in the way. -/
  clear : d.root.IsClear q

/-- Making directories leaves the clock. -/
@[simp] theorem clock_makeDirectories (d : Disk) (p : Path) :
    (d.makeDirectories p).2.clock = d.clock := by
  unfold makeDirectories
  split <;> rfl

/-- **Directories are made** up to the end of a path exactly if nothing is in the way. -/
theorem makeDirectories_eq_ok_iff {d : Disk} {p : Path} :
    (d.makeDirectories p).1 = .ok () ↔ d.Makes p p := by
  have hiff : d.Makes p p ↔ p.isUnusable = false ∧ d.root.IsClear p :=
    ⟨fun h => ⟨h.usable, h.clear⟩, fun h => ⟨h.1, List.prefix_rfl, h.2⟩⟩
  rw [hiff, ← Entry.makeDirectories_eq_ok_iff d.now, makeDirectories]
  by_cases hp : p.isUnusable <;> simp [hp]

/-- Directories that can be made are made. -/
theorem makeDirectories_of_makes {d : Disk} {p : Path} (h : d.Makes p p) :
    d.makeDirectories p = (.ok (), (d.makeDirectories p).2) :=
  Prod.ext (makeDirectories_eq_ok_iff.2 h) rfl

/-- Directories that cannot be made fail. -/
theorem makeDirectories_of_not {d : Disk} {p : Path} (h : ¬d.Makes p p) :
    ∃ fault, d.makeDirectories p = (.error fault, (d.makeDirectories p).2) := by
  rcases hresult : (d.makeDirectories p).1 with fault | _
  · exact ⟨fault, Prod.ext hresult rfl⟩
  · exact absurd (makeDirectories_eq_ok_iff.1 hresult) h

/-- **Where directories are made** there is one, which may have been there before. -/
theorem view_makeDirectories_of_makes {d : Disk} {p q : Path} (h : d.Makes p q) :
    (d.makeDirectories p).2.view q = some ((d.view q).getD (.directory d.now)) := by
  rw [makeDirectories, h.usable]
  exact Entry.view_makeDirectories_of_isClear d.now h.along h.clear

/-- **Elsewhere nothing is changed.** -/
theorem view_makeDirectories_of_not {d : Disk} {p q : Path} (h : ¬d.Makes p q) :
    (d.makeDirectories p).2.view q = d.view q := by
  rw [makeDirectories]
  by_cases hp : p.isUnusable
  · rw [if_pos hp]
  · rw [if_neg hp]
    exact Entry.view_makeDirectories_of_not d.now fun hq =>
      h ⟨Bool.not_eq_true _ ▸ hp, hq.1, hq.2⟩

/-- Where directories are made there is no file. -/
theorem Makes.not_hasFile {d : Disk} {p q : Path} (h : d.Makes p q) : ¬d.HasFile q :=
  fun hfile => h.clear.2 ⟨q, List.prefix_rfl, hfile⟩

/-- Where directories are made there is one. -/
theorem Makes.hasDirectory {d : Disk} {p q : Path} (h : d.Makes p q) :
    (d.makeDirectories p).2.HasDirectory q := by
  rw [HasDirectory, view_makeDirectories_of_makes h]
  rcases hview : d.view q with _ | (⟨content, modified⟩ | modified)
  · exact ⟨_, rfl⟩
  · exact absurd ⟨content, modified, hview⟩ h.not_hasFile
  · exact ⟨_, rfl⟩

/-- A path that directories were made for can be looked at. -/
theorem Makes.look {d : Disk} {p : Path} (h : d.Makes p p) :
    ∃ m, (d.makeDirectories p).2.look p = .ok (.directory m) := by
  obtain ⟨m, hm⟩ := h.hasDirectory
  refine ⟨m, ?_⟩
  rw [look_of_usable h.usable, Entry.look_of_view hm, h.clear.1.any_isTooLong]
  rfl

/-- There are the same files as before. -/
theorem hasFile_makeDirectories {d : Disk} {p q : Path} :
    (d.makeDirectories p).2.HasFile q ↔ d.HasFile q := by
  by_cases h : d.Makes p q
  · exact iff_of_false h.hasDirectory.not_hasFile h.not_hasFile
  · rw [HasFile, HasFile, view_makeDirectories_of_not h]

/-- There are the same directories as before, and those that were made. -/
theorem hasDirectory_makeDirectories {d : Disk} {p q : Path} :
    (d.makeDirectories p).2.HasDirectory q ↔ d.HasDirectory q ∨ d.Makes p q := by
  by_cases h : d.Makes p q
  · exact iff_of_true h.hasDirectory (.inr h)
  · rw [HasDirectory, HasDirectory, view_makeDirectories_of_not h]
    simp [h]

/-! ## Writing files -/

/-- A file can be put at a path: the path can be followed, it ends in a directory, and there is no
directory in the place of the file. -/
structure CanPut (d : Disk) (p : Path) (name : Name) : Prop where
  /-- The path can be followed. -/
  usable : Path.isUnusable (p ++ [name]) = false
  /-- The last name is one a directory can hold. -/
  short : name.isTooLong = false
  /-- There is a directory for the file. -/
  parent : ∃ m, d.look p = .ok (.directory m)
  /-- There is no directory in its place. -/
  free : ∀ m, d.view (p ++ [name]) ≠ some (.directory m)

/-- What is in the way of a file, by what looking gives. -/
theorem obstacle_eq_look (d : Disk) (p : Path) :
    d.obstacle? p = match d.look p.parent, d.look p with
      | .ok (.directory _), .ok (.directory _) => some .isDirectory
      | .ok (.directory _), .ok (.file ..) => none
      | .ok (.directory _), .error .notFound => none
      | .ok (.directory _), .error fault => some fault
      | .ok (.file ..), _ => some .notDirectory
      | .error fault, _ => some fault := by
  unfold obstacle? look
  rcases d.find p.parent with fault | e
  · rfl
  · cases e with
    | file content modified => rfl
    | directory entries modified =>
      rcases d.find p with fault | e
      · cases fault <;> rfl
      · cases e <;> rfl

/-- **Nothing is in the way of a file** exactly if it can be put. -/
theorem obstacle_eq_none_iff {d : Disk} {p : Path} {name : Name} :
    d.obstacle? (p ++ [name]) = none ↔ d.CanPut p name := by
  have hparent : Path.parent (p ++ [name]) = p := List.dropLast_concat
  rw [obstacle_eq_look, hparent]
  by_cases husable : Path.isUnusable (p ++ [name])
  · rw [look_of_unusable husable]
    have hnot : ¬d.CanPut p name := fun h => by simp [h.usable] at husable
    rcases d.look p with fault | (_ | _) <;> simp [hnot]
  · rw [Bool.not_eq_true] at husable
    rw [look_concat husable]
    constructor
    · intro h
      rcases hp : d.look p with fault | (⟨content, modified⟩ | modified)
      · simp [hp] at h
      · simp [hp] at h
      · rw [hp] at h
        by_cases hlong : name.isTooLong
        · simp [hlong, Except.bind] at h
        · rw [Bool.not_eq_true] at hlong
          refine ⟨husable, hlong, ⟨modified, hp⟩, fun m hm => ?_⟩
          simp [hlong, hm, Except.bind] at h
    · rintro ⟨-, hshort, ⟨m, hm⟩, hfree⟩
      rw [hm, hshort]
      rcases hview : d.view (p ++ [name]) with _ | (⟨content, modified⟩ | modified)
      · rfl
      · rfl
      · exact absurd hview (hfree modified)

/-- A file that can be put stands at its path, as old as the clock says. -/
theorem put_eq {d : Disk} {p : Path} {name : Name} (h : d.CanPut p name) (content : ByteArray) :
    d.put (p ++ [name]) content = (.ok (),
      { d with root := d.root.alter (fun _ => some (.file content d.now)) (p ++ [name]) }) := by
  rw [put, obstacle_eq_none_iff.2 h]

/-- So it is put. -/
theorem put_of_canPut {d : Disk} {p : Path} {name : Name} (h : d.CanPut p name)
    (content : ByteArray) :
    d.put (p ++ [name]) content = (.ok (), (d.put (p ++ [name]) content).2) := by
  rw [put_eq h]

/-- **A file that cannot be put** changes nothing. -/
theorem put_of_not {d : Disk} {p : Path} {name : Name} (h : ¬d.CanPut p name)
    (content : ByteArray) : ∃ fault, d.put (p ++ [name]) content = (.error fault, d) := by
  rw [← obstacle_eq_none_iff, ← Ne, Option.ne_none_iff_exists'] at h
  obtain ⟨fault, hfault⟩ := h
  exact ⟨fault, by rw [put, hfault]⟩

/-- Writing a file leaves the clock. -/
@[simp] theorem clock_put (d : Disk) (p : Path) (content : ByteArray) :
    (d.put p content).2.clock = d.clock := by
  unfold put
  split <;> rfl

/-- **A file that was put** is seen at its path, and nothing else is changed. -/
theorem view_put {d : Disk} {p : Path} {name : Name} (h : d.CanPut p name) (content : ByteArray)
    (q : Path) : (d.put (p ++ [name]) content).2.view q
      = if q = p ++ [name] then some (.file content d.now) else d.view q := by
  obtain ⟨m, hm⟩ := h.parent
  rw [put_eq h]
  exact Entry.view_alter_file (view_of_look hm) h.free content d.now q

/-- A file that was put can be looked at. -/
theorem look_put {d : Disk} {p : Path} {name : Name} (h : d.CanPut p name) (content : ByteArray) :
    (d.put (p ++ [name]) content).2.look (p ++ [name]) = .ok (.file content d.now) := by
  obtain ⟨m, hm⟩ := h.parent
  have hparent : (d.put (p ++ [name]) content).2.look p = .ok (.directory m) := by
    refine look_of_look hm ?_
    rw [view_put h, if_neg (by simp)]
    exact view_of_look hm
  rw [look_concat h.usable, hparent, view_put h, if_pos rfl, h.short]
  rfl

/-! ## Renaming files -/

/-- A file that is looked at is found. -/
theorem find_of_look_file {d : Disk} {p : Path} {content : ByteArray} {modified : Int}
    (h : d.look p = .ok (.file content modified)) : d.find p = .ok (.file content modified) := by
  unfold look at h
  rcases hfind : d.find p with fault | (⟨content', modified'⟩ | ⟨entries, modified'⟩)
  · simp [hfind, Except.map] at h
  · simpa [hfind, Except.map] using h
  · simp [hfind, Except.map] at h

/-- A directory that is looked at is found. -/
theorem find_of_look_directory {d : Disk} {p : Path} {modified : Int}
    (h : d.look p = .ok (.directory modified)) :
    ∃ entries, d.find p = .ok (.directory entries modified) := by
  unfold look at h
  rcases hfind : d.find p with fault | (⟨content, modified'⟩ | ⟨entries, modified'⟩)
  · simp [hfind, Except.map] at h
  · simp [hfind, Except.map] at h
  · have hmodified : modified' = modified := by simpa [hfind, Except.map] using h
    exact ⟨entries, by rw [hmodified]⟩

/-- Renaming leaves the clock. -/
@[simp] theorem clock_rename (d : Disk) (source target : Path) :
    (d.rename source target).2.clock = d.clock := by
  unfold rename
  split <;> rfl

/-- A file that could be put at its new path is taken away and put there. -/
theorem rename_eq {d : Disk} {source p : Path} {name : Name} {content : ByteArray}
    {modified : Int} (hsource : d.look source = .ok (.file content modified))
    (h : d.CanPut p name) :
    d.rename source (p ++ [name]) = (.ok (), { d with
      root := (d.root.alter (fun _ => none) source).alter
        (fun _ => some (.file content modified)) (p ++ [name]) }) := by
  rw [rename, find_of_look_file hsource, obstacle_eq_none_iff.2 h]

/-- So it is renamed. -/
theorem rename_of_canPut {d : Disk} {source p : Path} {name : Name} {content : ByteArray}
    {modified : Int} (hsource : d.look source = .ok (.file content modified))
    (h : d.CanPut p name) :
    d.rename source (p ++ [name]) = (.ok (), (d.rename source (p ++ [name])).2) := by
  rw [rename_eq hsource h]

/-- **A file that could not be put at its new path** stays where it is. -/
theorem rename_of_not {d : Disk} {p : Path} {name : Name} (h : ¬d.CanPut p name) (source : Path) :
    ∃ fault, d.rename source (p ++ [name]) = (.error fault, d) := by
  rw [← obstacle_eq_none_iff, ← Ne, Option.ne_none_iff_exists'] at h
  obtain ⟨fault, hfault⟩ := h
  rw [rename, hfault]
  rcases d.find source with fault' | (_ | _)
  · exact ⟨fault', rfl⟩
  · exact ⟨fault, rfl⟩
  · exact ⟨.isDirectory, rfl⟩

/-- **What is no file** stays where it is. -/
theorem rename_of_no_file {d : Disk} {source : Path}
    (h : ¬∃ content modified, d.look source = .ok (.file content modified)) (target : Path) :
    ∃ fault, d.rename source target = (.error fault, d) := by
  unfold rename
  rcases hfind : d.find source with fault | (⟨content, modified⟩ | _)
  · exact ⟨fault, rfl⟩
  · exact absurd ⟨content, modified, by rw [look, hfind]; rfl⟩ h
  · exact ⟨.isDirectory, rfl⟩

/-- **A file that was renamed** is seen at its new path, nothing is left at the old one, and nothing
else is changed. -/
theorem view_rename {d : Disk} {source p : Path} {name last : Name} {content : ByteArray}
    {modified : Int} (hsource : d.look (source ++ [last]) = .ok (.file content modified))
    (h : d.CanPut p name) (q : Path) :
    (d.rename (source ++ [last]) (p ++ [name])).2.view q
      = if q = p ++ [name] then some (.file content modified)
        else if q = source ++ [last] then none else d.view q := by
  obtain ⟨m, hm⟩ := h.parent
  have hfile : d.root.view (source ++ [last]) = some (.file content modified) :=
    view_of_look hsource
  have htaken := Entry.view_alter_none_of_file hfile
  -- The file is taken away first, so its directory must not have been the file.
  have hparent : p ≠ source ++ [last] := by
    rintro rfl
    rw [hsource] at hm
    cases hm
  rw [rename_eq hsource h]
  refine (Entry.view_alter_file (m := m) ?_ ?_ content modified q).trans ?_
  · rw [htaken, if_neg hparent]
    exact view_of_look hm
  · intro m'' hm''
    rw [htaken] at hm''
    split at hm''
    · cases hm''
    · exact h.free m'' hm''
  · rw [htaken]
    rfl

/-! ## Removing directories -/

/-- Removing a directory leaves the clock. -/
@[simp] theorem clock_removeTree (d : Disk) (p : Path) :
    (d.removeTree p).2.clock = d.clock := by
  unfold removeTree
  split <;> rfl

/-- A directory is taken away if it is there. -/
theorem removeTree_eq {d : Disk} {p : Path} {modified : Int}
    (h : d.look p = .ok (.directory modified)) :
    d.removeTree p = (.ok (), { d with root := d.root.alter (fun _ => none) p }) := by
  obtain ⟨entries, hfind⟩ := find_of_look_directory h
  rw [removeTree, hfind]

/-- So it is removed. -/
theorem removeTree_of_directory {d : Disk} {p : Path} {modified : Int}
    (h : d.look p = .ok (.directory modified)) :
    d.removeTree p = (.ok (), (d.removeTree p).2) := by
  rw [removeTree_eq h]

/-- **What is no directory is not removed.** -/
theorem removeTree_of_not {d : Disk} {p : Path}
    (h : ∀ modified, d.look p ≠ .ok (.directory modified)) :
    d.removeTree p = ((d.look p).bind fun _ => .error .notDirectory, d) := by
  unfold removeTree look at *
  rcases hfind : d.find p with fault | (_ | ⟨entries, modified⟩)
  · rfl
  · rfl
  · exact absurd (by rw [hfind]; rfl) (h modified)

/-- **A directory that was removed** is gone with everything in it, and nothing else is. -/
theorem view_removeTree {d : Disk} {p : Path} {name : Name} {modified : Int}
    (h : d.look (p ++ [name]) = .ok (.directory modified)) (q : Path) :
    (d.removeTree (p ++ [name])).2.view q = if p ++ [name] <+: q then none else d.view q := by
  obtain ⟨m, hm⟩ := Entry.view_parent (view_of_look h)
  rw [removeTree_eq h]
  exact Entry.view_alter_none hm name q

/-! ## Listing directories -/

/-- The names that are listed are sorted, each of them once. -/
structure IsListing (names : List String) : Prop where
  /-- They are sorted. -/
  sorted : names.Pairwise (· ≤ ·)
  /-- None is listed twice. -/
  nodup : names.Nodup

/-- A sorted list of different names is a listing. -/
theorem isListing_mergeSort {names : List String} (h : names.Nodup) :
    IsListing (names.mergeSort (· ≤ ·)) where
  sorted := by
    have hsorted : (names.mergeSort fun a b => decide (a ≤ b)).Pairwise
        fun a b => decide (a ≤ b) = true := by
      refine List.pairwise_mergeSort (fun a b c hab hbc => ?_) (fun a b => ?_) names
      · exact decide_eq_true (String.le_trans (of_decide_eq_true hab) (of_decide_eq_true hbc))
      · simpa using String.le_total a b
    exact hsorted.imp fun hab => by simpa using hab
  nodup := (List.mergeSort_perm names _).nodup_iff.2 h

/-- A listing is the only one with its names. -/
theorem IsListing.eq {names others : List String} (h : IsListing names) (h' : IsListing others)
    (hmem : ∀ s, s ∈ names ↔ s ∈ others) : names = others := by
  have hperm : names.Perm others := (List.perm_ext_iff_of_nodup h.nodup h'.nodup).2 hmem
  exact hperm.eq_of_pairwise (fun _ _ _ _ => String.le_antisymm) h.sorted h'.sorted

/-- Without repetitions, nothing stands twice. -/
theorem nodup_eraseDups {α : Type} [BEq α] [LawfulBEq α] (xs : List α) : xs.eraseDups.Nodup := by
  induction hn : xs.length using Nat.strongRecOn generalizing xs with
  | ind n ih =>
    cases xs with
    | nil => simp
    | cons x xs =>
      rw [List.eraseDups_cons, List.nodup_cons]
      have hlength : (xs.filter fun y => !y == x).length < n := by
        have := List.length_filter_le (fun y => !y == x) xs
        rw [List.length_cons] at hn
        omega
      exact ⟨by simp [List.mem_eraseDups], ih _ hlength _ rfl⟩

/-- A directory in a directory is seen there. -/
theorem any_isDirectory_iff {d : Disk} {p : Path} {entries : Entries} {modified : Int}
    (h : d.find p = .ok (.directory entries modified)) (name : Name) :
    (entries.get? name).any Entry.isDirectory = true
      ↔ ∃ m, d.view (p ++ [name]) = some (.directory m) := by
  have hfind : d.root.find p = .ok (.directory entries modified) := by
    unfold find at h
    split at h
    · cases h
    · exact h
  rw [view, Entry.view_of_find hfind, Entry.view_directory_cons]
  rcases Entries.get? entries name with _ | (_ | _) <;> simp [Entry.isDirectory]

/-- **The names of the directories in a directory** are listed. -/
theorem directories_of_directory {d : Disk} {p : Path} {modified : Int}
    (h : d.look p = .ok (.directory modified)) : ∃ names, d.directories p = .ok names
      ∧ IsListing names ∧ ∀ s, s ∈ names ↔ ∃ m, d.view (p ++ [.text s]) = some (.directory m) := by
  obtain ⟨entries, hfind⟩ := find_of_look_directory h
  refine ⟨_, by rw [directories, hfind], isListing_mergeSort ?_, fun s => ?_⟩
  · refine List.Nodup.filterMap ?_ ((nodup_eraseDups _).filter _)
    intro n n' s hn hn'
    cases n <;> cases n' <;> simp_all [Name.text?]
  · rw [List.mem_mergeSort, List.mem_filterMap, ← any_isDirectory_iff hfind]
    constructor
    · rintro ⟨n, hn, hs⟩
      cases n with
      | bytes raw => cases hs
      | text s' =>
        cases hs
        exact (List.mem_filter.1 hn).2
    · intro hs
      refine ⟨.text s, List.mem_filter.2 ⟨?_, hs⟩, rfl⟩
      rw [Entries.mem_names]
      cases hget : Entries.get? entries (.text s) with
      | none => simp [hget] at hs
      | some e => rfl

/-- **What is no directory has no directories.** -/
theorem directories_of_not {d : Disk} {p : Path} (h : ∀ m, d.look p ≠ .ok (.directory m)) :
    d.directories p = (d.look p).bind fun _ => .error .notDirectory := by
  unfold directories look at *
  rcases hfind : d.find p with fault | (_ | ⟨entries, modified⟩)
  · rfl
  · rfl
  · exact absurd (by rw [hfind]; rfl) (h modified)

/-- Directories with the same directories in them are listed alike. -/
theorem directories_congr {d d' : Disk} {p : Path} (hlook : d.look p = d'.look p)
    (hview : ∀ s, (∃ m, d.view (p ++ [.text s]) = some (.directory m))
      ↔ ∃ m, d'.view (p ++ [.text s]) = some (.directory m)) :
    d.directories p = d'.directories p := by
  by_cases h : ∃ m, d.look p = .ok (.directory m)
  · obtain ⟨m, hm⟩ := h
    obtain ⟨names, hnames, hlisting, hmem⟩ := directories_of_directory hm
    obtain ⟨names', hnames', hlisting', hmem'⟩ := directories_of_directory (hlook ▸ hm)
    rw [hnames, hnames', hlisting.eq hlisting' fun s => by rw [hmem, hmem', hview]]
  · rw [not_exists] at h
    rw [directories_of_not h, directories_of_not (hlook ▸ h), hlook]

end Disk

end SpeakerHub
