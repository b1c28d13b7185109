import SpeakerHub.Proofs.Store.Saving

/-! # What is in the way of a document

A document can be written if it and its draft can be followed, no file is on the way to their
directory and no directory stands in their places. No write of any document, whether it goes well or
not, puts such a thing there or takes it away, so what can be written once can always be written.

* **`Writes.hasFile_iff`**, **`hasDirectory_iff`** — what a write makes beside the document, its
  draft and the way to them.
* **`Store.CanWrite`** — nothing is in the way; **`Writes.eq_ok_iff`** — then, and only then, a
  write goes well.
* **`Writes.canWrite_iff`** — this never changes by writes. -/

namespace SpeakerHub

namespace Store

/-! ## Files and directories -/

section

variable {p q : Path} {file text : String} {d d' : Disk} {r : Except Error Unit}

/-- Where the draft can be written, there was no directory. -/
theorem not_hasDirectory_draft (hdraft : (made p d).CanPut p (.text (file ++ ".tmp"))) :
    ¬d.HasDirectory (p ++ [.text (file ++ ".tmp")]) := by
  rintro ⟨m, hm⟩
  exact hdraft.free m ((view_made_concat p _ d).trans hm)

/-- Where the draft can take its place, there was no directory. -/
theorem not_hasDirectory_place (hdraft : (made p d).CanPut p (.text (file ++ ".tmp")))
    (hplace : (drafted p file text d).CanPut p (.text file)) :
    ¬d.HasDirectory (p ++ [.text file]) := by
  rintro ⟨m, hm⟩
  refine hplace.free m ((view_drafted hdraft (draft_ne p file).symm).trans ?_)
  exact (view_made_concat p _ d).trans hm

variable (h : Writes p file text d r d')
include h

/-- **No file is written** but the document and its draft. -/
theorem Writes.hasFile_iff (hdraft : q ≠ p ++ [.text (file ++ ".tmp")])
    (hplace : q ≠ p ++ [.text file]) : d'.HasFile q ↔ d.HasFile q := by
  rw [Disk.HasFile, h.view_of_ne hdraft hplace]
  exact Disk.hasFile_makeDirectories

/-- **No directory is made** but on the way to the document, and none is replaced. -/
theorem Writes.hasDirectory_iff (hway : ¬q <+: p) : d'.HasDirectory q ↔ d.HasDirectory q := by
  have hkept {e : Disk} (he : e.view q = (made p d).view q) :
      e.HasDirectory q ↔ d.HasDirectory q := by
    have hmade : (made p d).view q = d.view q :=
      Disk.view_makeDirectories_of_not fun hmakes => hway hmakes.along
    rw [Disk.HasDirectory, he, hmade, Disk.HasDirectory]
  -- The draft and the document are no directories afterwards, and were none before.
  have hother {e : Disk} (he : ∀ m, e.view q ≠ some (.directory m)) : ¬e.HasDirectory q := by
    rintro ⟨m, hm⟩
    exact he m hm
  cases h with
  | noDirectory hmakes => exact hkept rfl
  | noDraft hmakes hnot => exact hkept rfl
  | noPlace hmakes hput hnot =>
    by_cases hdraft : q = p ++ [.text (file ++ ".tmp")]
    · subst hdraft
      refine iff_of_false (hother fun m => ?_) (not_hasDirectory_draft hput)
      rw [Disk.view_of_look (look_drafted hput)]
      rintro ⟨⟩
    · exact hkept (view_drafted hput hdraft)
  | done hmakes hput hrename =>
    have hview := view_placed hput hrename q
    by_cases hplace : q = p ++ [.text file]
    · rw [if_pos hplace] at hview
      subst hplace
      refine iff_of_false (hother fun m => ?_) (not_hasDirectory_place hput hrename)
      rw [hview]
      rintro ⟨⟩
    rw [if_neg hplace] at hview
    by_cases hdraft : q = p ++ [.text (file ++ ".tmp")]
    · rw [if_pos hdraft] at hview
      subst hdraft
      refine iff_of_false (hother fun m => ?_) (not_hasDirectory_draft hput)
      rw [hview]
      rintro ⟨⟩
    · rw [if_neg hdraft] at hview
      exact hkept hview

end

/-! ## Obstacles -/

/-- **Nothing is in the way of a document.** -/
structure CanWrite (s : Store) (k : Key) (d : Disk) : Prop where
  /-- The document can be followed. -/
  place_usable : (k.path s).isUnusable = false
  /-- Its draft can be followed. -/
  draft_usable : (k.draft s).isUnusable = false
  /-- No name on the way is too long. -/
  short : (k.parent s).IsShort
  /-- No file is on the way. -/
  clear : ∀ q, q <+: k.parent s → ¬d.HasFile q
  /-- No directory stands in the place of the document. -/
  place_free : ¬d.HasDirectory (k.path s)
  /-- No directory stands in the place of its draft. -/
  draft_free : ¬d.HasDirectory (k.draft s)

variable {s : Store} {k : Key} {text : String} {d d' : Disk} {r : Except Error Unit}

/-- Documents and drafts have names that a directory can hold. -/
theorem fileName_isTooLong (k : Key) : (Name.text k.fileName).isTooLong = false
    ∧ (Name.text (k.fileName ++ ".tmp")).isTooLong = false := by
  obtain ⟨-, hdraft, hsize⟩ := k.fileName_limits
  exact ⟨decide_eq_false (by omega), decide_eq_false (by omega)⟩

namespace CanWrite

/-- The way to a document that can be written has short names. -/
theorem isShort_path (h : s.CanWrite k d) : (k.path s).IsShort := by
  rw [Key.path, Path.isShort_append]
  exact ⟨h.short, by simpa [Path.IsShort] using (fileName_isTooLong k).1⟩

/-- There is a directory for it, or one can be made. -/
theorem makes (h : s.CanWrite k d) : d.Makes (k.parent s) (k.parent s) where
  usable := Disk.isUnusable_of_append h.place_usable
  along := List.prefix_rfl
  clear := ⟨h.short, fun ⟨q, hq, hfile⟩ => h.clear q hq hfile⟩

end CanWrite

/-- **A write goes well** exactly if nothing is in the way. -/
theorem Writes.eq_ok_iff (h : Writes (k.parent s) k.fileName text d r d') :
    r = .ok () ↔ s.CanWrite k d := by
  obtain ⟨hplace_short, hdraft_short⟩ := fileName_isTooLong k
  constructor
  · rintro rfl
    cases h with
    | done hmakes hput hrename =>
      have hclear (q : Path) (hq : q <+: k.parent s) (hfile : d.HasFile q) : False :=
        hmakes.clear.2 ⟨q, hq, hfile⟩
      exact ⟨hrename.usable, hput.usable, hmakes.clear.1, hclear,
        not_hasDirectory_place hput hrename, not_hasDirectory_draft hput⟩
  · -- Where nothing is in the way, no step of the write can go wrong.
    intro hcan
    cases h with
    | noDirectory hnot => exact absurd hcan.makes hnot
    | noDraft hmakes hnot =>
      refine absurd ⟨hcan.draft_usable, hdraft_short, hmakes.look, fun m hm => ?_⟩ hnot
      rw [view_made_concat] at hm
      exact hcan.draft_free ⟨m, hm⟩
    | noPlace hmakes hput hnot =>
      have hfree (m : Int) : d.view (k.path s) ≠ some (.directory m) :=
        fun hm => hcan.place_free ⟨m, hm⟩
      exact absurd (canPut_drafted hput hcan.place_usable hplace_short hfree) hnot
    | done => rfl

/-- **No write changes what is in the way** of a document. -/
theorem Writes.canWrite_iff (h : Writes (k.parent s) k.fileName text d r d') (k' : Key) :
    s.CanWrite k' d' ↔ s.CanWrite k' d := by
  -- Neither documents nor drafts are on the way to a document.
  have hfiles (q : Path) (hq : q <+: k'.parent s) : d'.HasFile q ↔ d.HasFile q := by
    refine h.hasFile_iff ?_ ?_
    · rintro rfl
      change k.draft s <+: _ at hq
      rw [Key.draft_eq, Key.parent, List.prefix_append_right_inj] at hq
      exact Key.draftTail_not_isPrefix k k' (hq.trans (List.prefix_append _ _))
    · rintro rfl
      change k.path s <+: _ at hq
      rw [Key.path_eq, Key.parent, List.prefix_append_right_inj] at hq
      exact Key.tail_not_prefix_folder k k' hq
  -- What is made on the way to one is no place of another, nor of its draft.
  have hplace : d'.HasDirectory (k'.path s) ↔ d.HasDirectory (k'.path s) := by
    refine h.hasDirectory_iff fun hway => ?_
    rw [Key.path_eq, Key.parent, List.prefix_append_right_inj] at hway
    exact Key.tail_not_prefix_folder k' k hway
  have hdraft : d'.HasDirectory (k'.draft s) ↔ d.HasDirectory (k'.draft s) := by
    refine h.hasDirectory_iff fun hway => ?_
    rw [Key.draft_eq, Key.parent, List.prefix_append_right_inj] at hway
    exact Key.draftTail_not_isPrefix k' k (hway.trans (List.prefix_append _ _))
  constructor
  · intro hcan
    exact ⟨hcan.place_usable, hcan.draft_usable, hcan.short,
      fun q hq => mt (hfiles q hq).2 (hcan.clear q hq), mt hplace.2 hcan.place_free,
      mt hdraft.2 hcan.draft_free⟩
  · intro hcan
    exact ⟨hcan.place_usable, hcan.draft_usable, hcan.short,
      fun q hq => mt (hfiles q hq).1 (hcan.clear q hq), mt hplace.1 hcan.place_free,
      mt hdraft.1 hcan.draft_free⟩

end Store

end SpeakerHub
