import SpeakerHub.Proofs.Disk.Steps

/-! # Steps below a path

Steps whose paths lead through one directory neither change nor see anything else on the disk, apart
from the directories on the way to it.

* **`Disk.Confined`** — all changes lie below a path, or are directories made on the way to it.
* **`Disk.Agree`** — two disks look alike below a path.
* **`Agree.look_eq`**, **`Agree.makes_iff`**, **`Agree.canPut_iff`** — steps see the same on both.
* **`Agree.makeDirectories`**, **`put`**, **`rename`**, **`removeTree`** — and leave them alike. -/

namespace SpeakerHub.Disk

/-! ## Confinement -/

/-- **All changes lie below a path**, or are directories that were missing on the way to it. -/
def Confined (p : Path) (d d' : Disk) : Prop :=
  ∀ q, ¬p <+: q → d'.view q = d.view q ∨ q <+: p ∧ d.view q = none ∧ d'.HasDirectory q

/-- Nothing that is not done changes anything. -/
theorem Confined.refl (p : Path) (d : Disk) : Confined p d d :=
  fun _ _ => .inl rfl

/-- Changes that lie below a path do so one after the other. -/
theorem Confined.trans {p : Path} {d d' d'' : Disk} (h : Confined p d d') (h' : Confined p d' d'') :
    Confined p d d'' := by
  intro q hq
  rcases h q hq with hsame | ⟨hway, hnone, m, hm⟩ <;>
    rcases h' q hq with hsame' | ⟨hway', hnone', hmade⟩
  · exact .inl (hsame'.trans hsame)
  · exact .inr ⟨hway', hsame ▸ hnone', hmade⟩
  · exact .inr ⟨hway, hnone, m, hsame'.trans hm⟩
  · rw [hm] at hnone'
    cases hnone'

section

variable {p path : Path} {name : Name} {d : Disk}

/-- What is below a path is not outside of it. -/
theorem ne_of_not_isPrefix {q : Path} (h : ¬p <+: q) (hp : p <+: path) (name : Name) :
    q ≠ path ++ [name] := by
  rintro rfl
  exact h (hp.trans (List.prefix_append path [name]))

/-- Directories are made below a path and on the way to it. -/
theorem confined_makeDirectories (hp : p <+: path) (d : Disk) :
    Confined p d (d.makeDirectories path).2 := by
  intro q hq
  by_cases h : d.Makes path q
  · have hway : q <+: p := (List.prefix_or_prefix_of_prefix h.along hp).resolve_right hq
    cases hview : d.view q with
    | none => exact .inr ⟨hway, rfl, h.hasDirectory⟩
    | some i =>
      left
      rw [view_makeDirectories_of_makes h, hview]
      rfl
  · exact .inl (view_makeDirectories_of_not h)

/-- A file is written below a path. -/
theorem confined_put (hp : p <+: path) (name : Name) (content : ByteArray) (d : Disk) :
    Confined p d (d.put (path ++ [name]) content).2 := by
  by_cases h : d.CanPut path name
  · intro q hq
    exact .inl (by rw [view_put h, if_neg (ne_of_not_isPrefix hq hp name)])
  · obtain ⟨fault, hfault⟩ := put_of_not h content
    rw [hfault]
    exact .refl p d

/-- A file is renamed below a path. -/
theorem confined_rename (hp : p <+: path) (last name : Name) (d : Disk) :
    Confined p d (d.rename (path ++ [last]) (path ++ [name])).2 := by
  by_cases h : d.CanPut path name
  case neg =>
    obtain ⟨fault, hfault⟩ := rename_of_not h (path ++ [last])
    rw [hfault]
    exact .refl p d
  by_cases hfile : ∃ content modified, d.look (path ++ [last]) = .ok (.file content modified)
  case neg =>
    obtain ⟨fault, hfault⟩ := rename_of_no_file hfile (path ++ [name])
    rw [hfault]
    exact .refl p d
  obtain ⟨content, modified, hlook⟩ := hfile
  intro q hq
  left
  rw [view_rename hlook h, if_neg (ne_of_not_isPrefix hq hp name),
    if_neg (ne_of_not_isPrefix hq hp last)]

/-- A directory is removed below a path. -/
theorem confined_removeTree (hp : p <+: path) (name : Name) (d : Disk) :
    Confined p d (d.removeTree (path ++ [name])).2 := by
  by_cases h : ∃ m, d.look (path ++ [name]) = .ok (.directory m)
  · obtain ⟨m, hm⟩ := h
    intro q hq
    have hbelow : ¬path ++ [name] <+: q := fun hbelow =>
      hq ((hp.trans (List.prefix_append path [name])).trans hbelow)
    exact .inl (by rw [view_removeTree hm, if_neg hbelow])
  · rw [removeTree_of_not (not_exists.1 h)]
    exact .refl p d

end

/-! ## Agreement -/

/-- **Two disks look alike below a path**, which both lead up to through directories, and it is the
same time on them. -/
structure Agree (p : Path) (d d' : Disk) : Prop where
  /-- It is the same time. -/
  clock : d.clock = d'.clock
  /-- There are directories on the way. -/
  way : ∀ q, q <+: p → q ≠ p → d.HasDirectory q ∧ d'.HasDirectory q
  /-- What is below looks alike. -/
  inside : ∀ q, p <+: q → d.view q = d'.view q

namespace Agree

variable {p path q : Path} {name : Name} {d d' : Disk} (h : Agree p d d')
include h

/-- Both clocks show the same. -/
theorem now : d.now = d'.now := by
  rw [Disk.now, Disk.now, h.clock]

/-- There are the same files on every way through the path. -/
theorem hasFile_iff (hp : p <+: path) (hq : q <+: path) : d.HasFile q ↔ d'.HasFile q := by
  by_cases hpq : p <+: q
  · rw [HasFile, HasFile, h.inside q hpq]
  · have hqp : q <+: p := (List.prefix_or_prefix_of_prefix hq hp).resolve_right hpq
    have hne : q ≠ p := by
      rintro rfl
      exact hpq List.prefix_rfl
    obtain ⟨hd, hd'⟩ := h.way q hqp hne
    exact iff_of_false hd.not_hasFile hd'.not_hasFile

/-- **The same directories can be made** on every way through the path. -/
theorem makes_iff (hp : p <+: path) : d.Makes path q ↔ d'.Makes path q := by
  have hclear (hq : q <+: path) : d.root.IsClear q ↔ d'.root.IsClear q :=
    and_congr_right fun _ => not_congr <| exists_congr fun r => and_congr_right fun hr =>
      h.hasFile_iff hp (hr.trans hq)
  exact ⟨fun ⟨husable, halong, hc⟩ => ⟨husable, halong, (hclear halong).1 hc⟩,
    fun ⟨husable, halong, hc⟩ => ⟨husable, halong, (hclear halong).2 hc⟩⟩

/-- Looking at the path itself gives the same. -/
theorem look_self : d.look p = d'.look p := by
  have hself := h.inside p List.prefix_rfl
  rcases List.eq_nil_or_concat' p with rfl | ⟨parent, name, rfl⟩
  · have hroot : d.root.inode = d'.root.inode := by
      simpa [view, Entry.view_nil] using hself
    rw [look_of_usable (by decide), look_of_usable (by decide),
      Entry.look_of_view (Entry.view_nil d.root), Entry.look_of_view (Entry.view_nil d'.root),
      hroot]
  · by_cases hunusable : Path.isUnusable (parent ++ [name])
    · rw [look_of_unusable hunusable, look_of_unusable hunusable]
    · rw [Bool.not_eq_true] at hunusable
      obtain ⟨⟨m, hm⟩, m', hm'⟩ := h.way parent (List.prefix_append parent [name]) (by simp)
      have husable := isUnusable_of_append hunusable
      rw [look_concat hunusable, look_concat hunusable, hself, look_of_usable husable,
        look_of_usable husable, Entry.look_of_view hm, Entry.look_of_view hm']
      split <;> rfl

/-- **Looking below the path gives the same.** -/
theorem look_eq (hp : p <+: path) : d.look path = d'.look path := by
  obtain ⟨rest, rfl⟩ := hp
  induction rest using List.reverseRecOn with
  | nil =>
    rw [List.append_nil]
    exact h.look_self
  | append_singleton rest name ih =>
    rw [← List.append_assoc]
    by_cases hunusable : Path.isUnusable (p ++ rest ++ [name])
    · rw [look_of_unusable hunusable, look_of_unusable hunusable]
    · rw [Bool.not_eq_true] at hunusable
      have hinside := h.inside (p ++ rest ++ [name]) (by simp [List.append_assoc])
      rw [look_concat hunusable, look_concat hunusable, ih, hinside]

/-- The same files can be put below the path. -/
theorem canPut_iff (hp : p <+: path) : d.CanPut path name ↔ d'.CanPut path name := by
  have hview := h.inside (path ++ [name]) (hp.trans (List.prefix_append path [name]))
  constructor
  · rintro ⟨husable, hshort, hparent, hfree⟩
    exact ⟨husable, hshort, h.look_eq hp ▸ hparent, hview ▸ hfree⟩
  · rintro ⟨husable, hshort, hparent, hfree⟩
    exact ⟨husable, hshort, h.look_eq hp ▸ hparent, hview ▸ hfree⟩

/-- **Making directories** below the path goes alike. -/
theorem makeDirectories (hp : p <+: path) :
    ((d.makeDirectories path).1 = .ok () ↔ (d'.makeDirectories path).1 = .ok ())
      ∧ Agree p (d.makeDirectories path).2 (d'.makeDirectories path).2 := by
  refine ⟨?_, ?_, fun q hq hne => ?_, fun q hq => ?_⟩
  · rw [makeDirectories_eq_ok_iff, makeDirectories_eq_ok_iff]
    exact h.makes_iff hp
  · rw [clock_makeDirectories, clock_makeDirectories, h.clock]
  · obtain ⟨hd, hd'⟩ := h.way q hq hne
    exact ⟨hasDirectory_makeDirectories.2 (.inl hd), hasDirectory_makeDirectories.2 (.inl hd')⟩
  · by_cases hmakes : d.Makes path q
    · rw [view_makeDirectories_of_makes hmakes,
        view_makeDirectories_of_makes ((h.makes_iff hp).1 hmakes), h.inside q hq, h.now]
    · rw [view_makeDirectories_of_not hmakes,
        view_makeDirectories_of_not (mt (h.makes_iff hp).2 hmakes), h.inside q hq]

/-- Directories on the way stay where they are if nothing that is not below the path changes. -/
theorem way_of_view {e e' : Disk} (hview : ∀ q, ¬p <+: q → e.view q = d.view q)
    (hview' : ∀ q, ¬p <+: q → e'.view q = d'.view q) (hq : q <+: p) (hne : q ≠ p) :
    e.HasDirectory q ∧ e'.HasDirectory q := by
  have hpq : ¬p <+: q := fun hpq => hne (hq.eq_of_length_le hpq.length_le)
  rw [HasDirectory, HasDirectory, hview q hpq, hview' q hpq]
  exact h.way q hq hne

/-- **Writing a file** below the path goes alike. -/
theorem put (hp : p <+: path) (name : Name) (content : ByteArray) :
    ((d.put (path ++ [name]) content).1 = .ok () ↔ (d'.put (path ++ [name]) content).1 = .ok ())
      ∧ Agree p (d.put (path ++ [name]) content).2 (d'.put (path ++ [name]) content).2 := by
  by_cases hput : d.CanPut path name
  · have hput' := (h.canPut_iff hp).1 hput
    refine ⟨by rw [put_of_canPut hput, put_of_canPut hput'], ?_, fun q hq hne => ?_, fun q hq => ?_⟩
    · rw [clock_put, clock_put, h.clock]
    · refine h.way_of_view (fun r hr => ?_) (fun r hr => ?_) hq hne
      · rw [view_put hput, if_neg (ne_of_not_isPrefix hr hp name)]
      · rw [view_put hput', if_neg (ne_of_not_isPrefix hr hp name)]
    · rw [view_put hput, view_put hput', h.inside q hq, h.now]
  · have hput' := mt (h.canPut_iff hp).2 hput
    obtain ⟨fault, hfault⟩ := put_of_not hput content
    obtain ⟨fault', hfault'⟩ := put_of_not hput' content
    rw [hfault, hfault']
    exact ⟨by simp, h⟩

/-- **Renaming a file** below the path goes alike. -/
theorem rename (hp : p <+: path) (last name : Name) :
    ((d.rename (path ++ [last]) (path ++ [name])).1 = .ok ()
        ↔ (d'.rename (path ++ [last]) (path ++ [name])).1 = .ok ())
      ∧ Agree p (d.rename (path ++ [last]) (path ++ [name])).2
        (d'.rename (path ++ [last]) (path ++ [name])).2 := by
  have hlook := h.look_eq (hp.trans (List.prefix_append path [last]))
  by_cases hput : d.CanPut path name
  case neg =>
    have hput' := mt (h.canPut_iff hp).2 hput
    obtain ⟨fault, hfault⟩ := rename_of_not hput (path ++ [last])
    obtain ⟨fault', hfault'⟩ := rename_of_not hput' (path ++ [last])
    rw [hfault, hfault']
    exact ⟨by simp, h⟩
  have hput' := (h.canPut_iff hp).1 hput
  by_cases hfile : ∃ content modified, d.look (path ++ [last]) = .ok (.file content modified)
  case neg =>
    obtain ⟨fault, hfault⟩ := rename_of_no_file hfile (path ++ [name])
    obtain ⟨fault', hfault'⟩ := rename_of_no_file (hlook ▸ hfile) (path ++ [name])
    rw [hfault, hfault']
    exact ⟨by simp, h⟩
  obtain ⟨content, modified, hsource⟩ := hfile
  have hsource' := hlook ▸ hsource
  refine ⟨by rw [rename_of_canPut hsource hput, rename_of_canPut hsource' hput'], ?_,
    fun q hq hne => ?_, fun q hq => ?_⟩
  · rw [clock_rename, clock_rename, h.clock]
  · refine h.way_of_view (fun r hr => ?_) (fun r hr => ?_) hq hne
    · rw [view_rename hsource hput, if_neg (ne_of_not_isPrefix hr hp name),
        if_neg (ne_of_not_isPrefix hr hp last)]
    · rw [view_rename hsource' hput', if_neg (ne_of_not_isPrefix hr hp name),
        if_neg (ne_of_not_isPrefix hr hp last)]
  · rw [view_rename hsource hput, view_rename hsource' hput', h.inside q hq]

/-- **Removing a directory** below the path goes alike. -/
theorem removeTree (hp : p <+: path) (name : Name) :
    (d.removeTree (path ++ [name])).1 = (d'.removeTree (path ++ [name])).1
      ∧ Agree p (d.removeTree (path ++ [name])).2 (d'.removeTree (path ++ [name])).2 := by
  have hlook := h.look_eq (hp.trans (List.prefix_append path [name]))
  by_cases hdirectory : ∃ m, d.look (path ++ [name]) = .ok (.directory m)
  case neg =>
    rw [removeTree_of_not (not_exists.1 hdirectory),
      removeTree_of_not (not_exists.1 (hlook ▸ hdirectory)), hlook]
    exact ⟨rfl, h⟩
  obtain ⟨m, hm⟩ := hdirectory
  have hm' := hlook ▸ hm
  refine ⟨by rw [removeTree_of_directory hm, removeTree_of_directory hm'], ?_,
    fun q hq hne => ?_, fun q hq => ?_⟩
  · rw [clock_removeTree, clock_removeTree, h.clock]
  · have hbelow (r : Path) (hr : ¬p <+: r) : ¬path ++ [name] <+: r := fun hbelow =>
      hr ((hp.trans (List.prefix_append path [name])).trans hbelow)
    refine h.way_of_view (fun r hr => ?_) (fun r hr => ?_) hq hne
    · rw [view_removeTree hm, if_neg (hbelow r hr)]
    · rw [view_removeTree hm', if_neg (hbelow r hr)]
  · rw [view_removeTree hm, view_removeTree hm', h.inside q hq]

/-- **The directories of a directory** below the path are listed alike. -/
theorem directories_eq (hp : p <+: path) : d.directories path = d'.directories path := by
  refine directories_congr (h.look_eq hp) fun s => ?_
  have hname := h.inside (path ++ [.text s]) (hp.trans (List.prefix_append path [Name.text s]))
  rw [hname]

end Agree

end SpeakerHub.Disk
