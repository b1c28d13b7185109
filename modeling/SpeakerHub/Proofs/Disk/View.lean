import Mathlib.Data.List.Basic
import Mathlib.Data.List.Infix
import SpeakerHub.Disk.Entry

/-! # What paths lead to

A tree is seen as a function of paths: what stands at a path by itself, without what is in it. The
operations on trees are described by what they do to this function, so that a claim about a path
never has to look into lists of entries.

* **`Inode`** — a file with its content, or a directory without its entries.
* **`Entry.view`** — what is at a path; **`Entry.look`** — the same, or what is in the way.
* **`look_concat`** — looking goes on by one name; **`look_of_view`**, **`look_of_short`** — what
  looking gives.
* **`Entry.IsClear`** — nothing is in the way of a directory; **`makeDirectories_eq_ok_iff`**,
  **`view_makeDirectories_of_isClear`**, **`view_makeDirectories_of_not`** — what making directories
  does.
* **`view_alter_of_not_isPrefix`**, **`view_alter_append`** — what changing an entry does. -/

namespace SpeakerHub

/-- What an entry is by itself, without the entries in it. -/
inductive Inode where
  /-- A file with its content, and when it was last written. -/
  | file (content : ByteArray) (modified : Int)
  /-- A directory, and when it was made. -/
  | directory (modified : Int)

namespace Inode

/-- When it was last changed. -/
def modified : Inode → Int
  | file _ modified => modified
  | directory modified => modified

end Inode

namespace Entries

/-- An empty directory has no entries. -/
@[simp] theorem get?_nil (name : Name) : get? [] name = none := rfl

/-- The entry that was changed. -/
@[simp] theorem get?_alter_self (name : Name) (f : Option Entry → Option Entry)
    (entries : Entries) : (entries.alter name f).get? name = f (entries.get? name) := by
  unfold alter
  cases h : f (entries.get? name) with
  | none => exact get?_erase_self name entries
  | some e => exact get?_insert_self name e entries

/-- Changing an entry is not seen under any other name. -/
theorem get?_alter_of_ne {name other : Name} (h : other ≠ name) (f : Option Entry → Option Entry)
    (entries : Entries) : (entries.alter name f).get? other = entries.get? other := by
  unfold alter
  split
  · exact get?_insert_of_ne h _ entries
  · exact get?_erase_of_ne h entries

end Entries

namespace Path

/-- A path of names that a directory can hold. -/
def IsShort (p : Path) : Prop :=
  ∀ n ∈ p, n.isTooLong = false

/-- No name of a short path is too long. -/
theorem IsShort.any_isTooLong {p : Path} (h : p.IsShort) : p.any Name.isTooLong = false := by
  rw [List.any_eq_false]
  exact fun n hn => Bool.eq_false_iff.1 (h n hn)

end Path

namespace Entry

/-! ## Views -/

/-- What an entry is by itself. -/
def inode : Entry → Inode
  | file content modified => .file content modified
  | directory _ modified => .directory modified

@[simp] theorem inode_file (content : ByteArray) (modified : Int) :
    (file content modified).inode = .file content modified := rfl

@[simp] theorem inode_directory (entries : Entries) (modified : Int) :
    (directory entries modified).inode = .directory modified := rfl

/-- What is at a path, whatever the length of its names. -/
def view : Entry → Path → Option Inode
  | e, [] => some e.inode
  | .file .., _ :: _ => none
  | .directory entries _, name :: path => (Entries.get? entries name).bind fun e => e.view path

@[simp] theorem view_nil (e : Entry) : e.view [] = some e.inode := by
  cases e <;> rfl

@[simp] theorem view_file_cons (content : ByteArray) (modified : Int) (name : Name) (path : Path) :
    (file content modified).view (name :: path) = none := rfl

@[simp] theorem view_directory_cons (entries : Entries) (modified : Int) (name : Name)
    (path : Path) : (directory entries modified).view (name :: path)
      = (entries.get? name).bind fun e => e.view path := rfl

/-- What a path leads on to stands in a directory. -/
theorem view_parent {e : Entry} {p q : Path} {name : Name} {i : Inode}
    (h : e.view (p ++ name :: q) = some i) : ∃ m, e.view p = some (.directory m) := by
  induction p generalizing e with
  | nil =>
    cases e with
    | file content modified => simp at h
    | directory entries modified => exact ⟨modified, rfl⟩
  | cons n p ih =>
    cases e with
    | file content modified => simp at h
    | directory entries modified =>
      rw [List.cons_append, view_directory_cons, Option.bind_eq_some_iff] at h
      obtain ⟨x, hx, hview⟩ := h
      rw [view_directory_cons, hx]
      exact ih hview

/-- Everything on the way to something is a directory. -/
theorem view_of_isPrefix {e : Entry} {p q : Path} {i : Inode} (h : e.view q = some i)
    (hpq : p <+: q) (hne : p ≠ q) : ∃ m, e.view p = some (.directory m) := by
  obtain ⟨rest, rfl⟩ := hpq
  cases rest with
  | nil => exact absurd (List.append_nil p).symm hne
  | cons name rest => exact view_parent h

/-! ## Looking -/

/-- A path is followed piece by piece. -/
theorem find_append (e : Entry) (p q : Path) : e.find (p ++ q) = (e.find p).bind (find q) := by
  induction p generalizing e with
  | nil => cases e <;> rfl
  | cons n p ih =>
    cases e with
    | file content modified => rfl
    | directory entries modified =>
      simp only [List.cons_append, find]
      split
      · rfl
      · cases Entries.get? entries n with
        | none => rfl
        | some x => exact ih x

/-- What was found is seen. -/
theorem view_of_find {e x : Entry} {p : Path} (h : e.find p = .ok x) (q : Path) :
    e.view (p ++ q) = x.view q := by
  induction p generalizing e with
  | nil =>
    cases e <;> (cases h; rfl)
  | cons n p ih =>
    cases e with
    | file content modified => cases h
    | directory entries modified =>
      simp only [find] at h
      split at h
      · cases h
      · cases hn : Entries.get? entries n with
        | none => simp [hn] at h
        | some y =>
          rw [hn] at h
          rw [List.cons_append, view_directory_cons, hn]
          exact ih h

/-- What a path leads to by itself, or what is in the way. -/
def look (e : Entry) (p : Path) : Except Fault Inode :=
  (e.find p).map inode

/-- What is looked at is seen. -/
theorem view_of_look {e : Entry} {p : Path} {i : Inode} (h : e.look p = .ok i) :
    e.view p = some i := by
  unfold look at h
  cases hfind : e.find p with
  | error fault => simp [hfind, Except.map] at h
  | ok x =>
    have hview := view_of_find hfind []
    rw [List.append_nil, view_nil] at hview
    rw [hfind] at h
    cases h
    exact hview

/-- **Looking goes on by one name.** -/
theorem look_concat (e : Entry) (p : Path) (name : Name) :
    e.look (p ++ [name]) = (e.look p).bind fun
      | .file .. => .error .notDirectory
      | .directory _ =>
        if name.isTooLong then .error .badName
        else
          match e.view (p ++ [name]) with
          | some i => .ok i
          | none => .error .notFound := by
  unfold look
  rw [find_append]
  cases hfind : e.find p with
  | error fault => rfl
  | ok x =>
    rw [view_of_find hfind]
    cases x with
    | file content modified => rfl
    | directory entries modified =>
      simp only [Except.bind, Except.map, find, inode, view_directory_cons]
      by_cases hlong : name.isTooLong
      · simp [hlong]
      · cases Entries.get? entries name with
        | none => simp [hlong]
        | some y => cases y <;> simp [hlong]

/-- **What is there can be looked at**, unless a name on the way is too long. -/
theorem look_of_view {e : Entry} {p : Path} {i : Inode} (h : e.view p = some i) :
    e.look p = if p.any Name.isTooLong then .error .badName else .ok i := by
  induction p using List.reverseRecOn generalizing i with
  | nil =>
    rw [view_nil, Option.some_inj] at h
    subst h
    cases e <;> rfl
  | append_singleton p name ih =>
    obtain ⟨m, hm⟩ := view_parent h
    rw [look_concat, ih hm, h, List.any_append]
    by_cases hlong : p.any Name.isTooLong
    · simp [hlong, Except.bind]
    · by_cases hname : name.isTooLong <;> simp [hlong, hname, Except.bind]

/-- A file stands on the way along a path, or at its end. -/
def IsBlocked (e : Entry) (p : Path) : Prop :=
  ∃ q, q <+: p ∧ ∃ content modified, e.view q = some (.file content modified)

/-- A way that goes on is blocked where it was, or by what stands at its end. -/
theorem isBlocked_concat {e : Entry} {p : Path} {name : Name} :
    e.IsBlocked (p ++ [name]) ↔ e.IsBlocked p
      ∨ ∃ content modified, e.view (p ++ [name]) = some (.file content modified) := by
  constructor
  · rintro ⟨q, hq, hfile⟩
    rcases List.prefix_concat_iff.1 hq with rfl | hq
    · exact .inr hfile
    · exact .inl ⟨q, hq, hfile⟩
  · rintro (⟨q, hq, hfile⟩ | hfile)
    · exact ⟨q, hq.trans (List.prefix_append p [name]), hfile⟩
    · exact ⟨_, List.prefix_rfl, hfile⟩

/-- No file stands on the way to a directory. -/
theorem not_isBlocked_of_directory {e : Entry} {p : Path} {m : Int}
    (h : e.view p = some (.directory m)) : ¬e.IsBlocked p := by
  rintro ⟨q, hq, content, modified, hfile⟩
  by_cases hqp : q = p
  · rw [hqp, h] at hfile
    cases hfile
  · obtain ⟨m', hdirectory⟩ := view_of_isPrefix h hq hqp
    rw [hdirectory] at hfile
    cases hfile

open Classical in
/-- **What looking along short names gives**: what is there, or else whether a file is in the
way. -/
theorem look_of_short {e : Entry} {p : Path} (h : p.IsShort) :
    e.look p = match e.view p with
      | some i => .ok i
      | none => .error (if e.IsBlocked p then .notDirectory else .notFound) := by
  induction p using List.reverseRecOn with
  | nil => cases e <;> rfl
  | append_singleton p name ih =>
    have hp : Path.IsShort p := fun n hn => h n (List.mem_append_left _ hn)
    have hname : name.isTooLong = false := h name (by simp)
    cases hview : e.view (p ++ [name]) with
    | some i => rw [look_of_view hview, h.any_isTooLong]; rfl
    | none =>
      have hblocked : e.IsBlocked (p ++ [name]) ↔ e.IsBlocked p := by
        simp [isBlocked_concat, hview]
      rw [look_concat, ih hp, hview, hname]
      simp only [hblocked]
      -- What is in the way is decided by what the last name would stand in.
      cases hparent : e.view p with
      | none => rfl
      | some i =>
        cases i with
        | file content modified =>
          have : e.IsBlocked p := ⟨p, List.prefix_rfl, content, modified, hparent⟩
          simp [Except.bind, this]
        | directory modified =>
          have : ¬e.IsBlocked p := not_isBlocked_of_directory hparent
          simp [Except.bind, this]

/-! ## Making directories -/

/-- Nothing is in the way of a directory at a path: no name is too long and no file is on the
way. -/
def IsClear (e : Entry) (p : Path) : Prop :=
  p.IsShort ∧ ¬e.IsBlocked p

/-- No directory can be where a file is. -/
theorem not_isClear_file (content : ByteArray) (modified : Int) (p : Path) :
    ¬(file content modified).IsClear p :=
  fun h => h.2 ⟨[], List.nil_prefix, content, modified, rfl⟩

/-- A directory is a directory. -/
theorem isClear_nil (entries : Entries) (modified : Int) :
    (directory entries modified).IsClear [] := by
  refine ⟨fun n hn => absurd hn List.not_mem_nil, ?_⟩
  rintro ⟨q, hq, content, m, hfile⟩
  obtain rfl := List.prefix_nil.1 hq
  cases hfile

/-- The way from a directory is clear if the first name is short and the rest is clear in what it
leads to, or would lead to. -/
theorem isClear_cons (now : Int) {entries : Entries} {modified : Int} {name : Name} {p : Path} :
    (directory entries modified).IsClear (name :: p) ↔ name.isTooLong = false
      ∧ ((entries.get? name).getD (.directory [] now)).IsClear p := by
  have hview (q : Path) : (∃ content m,
      (directory entries modified).view (name :: q) = some (.file content m)) ↔
        ∃ content m, ((entries.get? name).getD (.directory [] now)).view q
          = some (.file content m) := by
    cases hn : entries.get? name with
    | some x => simp [hn]
    | none => cases q <;> simp [hn]
  have hblocked : (directory entries modified).IsBlocked (name :: p)
      ↔ ((entries.get? name).getD (.directory [] now)).IsBlocked p := by
    constructor
    · rintro ⟨q, hq, hfile⟩
      cases q with
      | nil => obtain ⟨content, m, hfile⟩ := hfile; cases hfile
      | cons n q =>
        obtain ⟨rfl, hrest⟩ := List.cons_prefix_cons.1 hq
        exact ⟨q, hrest, (hview q).1 hfile⟩
    · rintro ⟨q, hq, hfile⟩
      exact ⟨name :: q, List.cons_prefix_cons.2 ⟨rfl, hq⟩, (hview q).2 hfile⟩
  simp only [IsClear, Path.IsShort, hblocked, List.forall_mem_cons, and_assoc]

/-- Nothing is made where a file is. -/
theorem makeDirectories_file (now : Int) (p : Path) (content : ByteArray) (modified : Int) :
    (file content modified).makeDirectories now p
      = (.error .notDirectory, file content modified) := by
  cases p <;> rfl

/-- Behind the first name of a path directories are made in what it leads to, or would lead to. -/
theorem makeDirectories_cons (now : Int) (name : Name) (p : Path) (entries : Entries)
    (modified : Int) :
    (directory entries modified).makeDirectories now (name :: p)
      = if name.isTooLong then (.error .badName, directory entries modified)
        else
          let made := ((entries.get? name).getD (.directory [] now)).makeDirectories now p
          (made.1, directory (entries.insert name made.2) modified) := rfl

/-- Directories are made exactly if nothing is in the way. -/
theorem makeDirectories_eq_ok_iff (now : Int) (p : Path) (e : Entry) :
    (e.makeDirectories now p).1 = .ok () ↔ e.IsClear p := by
  induction p generalizing e with
  | nil =>
    cases e with
    | file content modified => simp [makeDirectories_file, not_isClear_file]
    | directory entries modified => exact iff_of_true rfl (isClear_nil entries modified)
  | cons name p ih =>
    cases e with
    | file content modified => simp [makeDirectories_file, not_isClear_file]
    | directory entries modified =>
      rw [isClear_cons now, makeDirectories_cons]
      by_cases hlong : name.isTooLong
      · simp [hlong]
      · simp [hlong, ih]

/-- Making directories leaves what an entry is by itself. -/
@[simp] theorem inode_makeDirectories (now : Int) (p : Path) (e : Entry) :
    (e.makeDirectories now p).2.inode = e.inode := by
  cases e with
  | file content modified => rw [makeDirectories_file]
  | directory entries modified =>
    cases p with
    | nil => rfl
    | cons name p =>
      rw [makeDirectories_cons]
      split <;> rfl

/-- What making directories does to the entry under the first name. -/
theorem view_makeDirectories_cons (now : Int) {name : Name} (h : name.isTooLong = false)
    (p q : Path) (entries : Entries) (modified : Int) :
    ((directory entries modified).makeDirectories now (name :: p)).2.view (name :: q)
      = (((entries.get? name).getD (.directory [] now)).makeDirectories now p).2.view q := by
  rw [makeDirectories_cons, if_neg (Bool.eq_false_iff.1 h)]
  simp

/-- **Directories are made** wherever a path comes by and nothing is in the way. -/
theorem view_makeDirectories_of_isClear (now : Int) {p q : Path} (hq : q <+: p) {e : Entry}
    (hclear : e.IsClear q) :
    (e.makeDirectories now p).2.view q = some ((e.view q).getD (.directory now)) := by
  induction q generalizing e p with
  | nil => simp
  | cons name q ih =>
    obtain ⟨rest, rfl⟩ := hq
    cases e with
    | file content modified => exact absurd hclear (not_isClear_file content modified _)
    | directory entries modified =>
      rw [isClear_cons now] at hclear
      obtain ⟨hname, hclear⟩ := hclear
      rw [List.cons_append, view_makeDirectories_cons now hname,
        ih (List.prefix_append q rest) hclear]
      cases hn : Entries.get? entries name with
      | some x => simp [hn]
      | none => cases q <;> simp [hn]

/-- **Nothing else is changed.** -/
theorem view_makeDirectories_of_not (now : Int) {p q : Path} {e : Entry}
    (h : ¬(q <+: p ∧ e.IsClear q)) : (e.makeDirectories now p).2.view q = e.view q := by
  induction p generalizing e q with
  | nil => cases e <;> rfl
  | cons name p ih =>
    cases e with
    | file content modified => rfl
    | directory entries modified =>
      cases q with
      | nil => simp
      | cons n q =>
        by_cases hlong : name.isTooLong
        · rw [makeDirectories_cons, if_pos hlong]
        · rw [Bool.not_eq_true] at hlong
          by_cases hn : n = name
          · subst hn
            rw [isClear_cons now, List.cons_prefix_cons] at h
            have hrest :
                ¬(q <+: p ∧ ((Entries.get? entries n).getD (.directory [] now)).IsClear q) :=
              fun hq => h ⟨⟨rfl, hq.1⟩, hlong, hq.2⟩
            rw [view_makeDirectories_cons now hlong, ih hrest]
            cases hget : Entries.get? entries n with
            | some x => simp [hget]
            | none =>
              cases q with
              | nil =>
                -- The first name leads to a new directory, where nothing can be in the way.
                rw [hget] at hrest
                exact absurd ⟨List.nil_prefix, isClear_nil [] now⟩ hrest
              | cons n' q => simp [hget]
          · rw [makeDirectories_cons, if_neg (Bool.eq_false_iff.1 hlong)]
            simp [Entries.get?_insert_of_ne hn]

/-! ## Changing an entry -/

/-- Behind the first name of a longer path an entry of the directory is changed. -/
theorem alter_cons {p : Path} (h : p ≠ []) (f : Option Entry → Option Entry) (name : Name)
    (entries : Entries) (modified : Int) :
    alter f (name :: p) (.directory entries modified)
      = .directory (entries.alter name (Option.map (alter f p))) modified := by
  cases p with
  | nil => exact absurd rfl h
  | cons n p => rfl

/-- **Changing an entry** leaves everything that is not at its path or below it. -/
theorem view_alter_of_not_isPrefix {p q : Path} (h : ¬p <+: q) (f : Option Entry → Option Entry)
    (e : Entry) : (e.alter f p).view q = e.view q := by
  induction p generalizing e q with
  | nil => exact absurd List.nil_prefix h
  | cons name p ih =>
    cases e with
    | file content modified => rfl
    | directory entries modified =>
      -- The directory itself changes the entry under the last name.
      by_cases hp : p = []
      · subst hp
        cases q with
        | nil => rfl
        | cons n q =>
          have hn : n ≠ name := by
            rintro rfl
            exact h (List.prefix_append [n] q)
          rw [alter, view_directory_cons, Entries.get?_alter_of_ne hn]
          rfl
      · rw [alter_cons hp]
        cases q with
        | nil => rfl
        | cons n q =>
          by_cases hn : n = name
          · subst hn
            have hrest : ¬p <+: q := fun hq => h (List.cons_prefix_cons.2 ⟨rfl, hq⟩)
            rw [view_directory_cons, view_directory_cons, Entries.get?_alter_self]
            cases Entries.get? entries n with
            | none => rfl
            | some x => exact ih hrest x
          · rw [view_directory_cons, Entries.get?_alter_of_ne hn]
            rfl

/-- **At the path of a changed entry** stands what it was changed to. -/
theorem view_alter_append {e : Entry} {p : Path} {m : Int} (h : e.view p = some (.directory m))
    (name : Name) (new : Option Entry) (q : Path) :
    (e.alter (fun _ => new) (p ++ [name])).view (p ++ name :: q) = new.bind (·.view q) := by
  induction p generalizing e with
  | nil =>
    cases e with
    | file content modified => cases h
    | directory entries modified =>
      rw [List.nil_append, List.nil_append, alter, view_directory_cons, Entries.get?_alter_self]
  | cons n p ih =>
    cases e with
    | file content modified => cases h
    | directory entries modified =>
      have hp : p ++ [name] ≠ [] := by simp
      rw [view_directory_cons, Option.bind_eq_some_iff] at h
      obtain ⟨x, hx, hview⟩ := h
      rw [List.cons_append, List.cons_append, alter_cons hp, view_directory_cons,
        Entries.get?_alter_self, hx]
      exact ih hview

end Entry

end SpeakerHub
