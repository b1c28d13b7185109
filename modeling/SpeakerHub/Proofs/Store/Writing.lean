import SpeakerHub.Freshness
import SpeakerHub.Proofs.Disk.Steps
import SpeakerHub.Store

/-! # Writing a document

A document is written in three steps, each of which can fail. Whatever happens, only the document,
its draft and missing directories on the way to them change what can be seen on the disk, and the
document itself changes only if all three steps go well.

* **`Store.Writes`** — the four ways in which a write ends; **`Store.writes`** — there are no
  others.
* **`Writes.look_of_ok`**, **`Writes.draft_of_ok`** — the document is there, and no draft is left.
* **`Writes.look_kept`** — what is not on the way to the document looks as before;
  **`Writes.view_new`** — what is new carries the time of the clock.
* **`Writes.again`** — a document that was written can be written again.
* **`Writes.parent_of_error`** — a write that failed leaves no new directory for the document.
* **`Store.read_congr`**, **`token_congr`**, **`directories_congr`** — what reading depends on;
  **`read_file`** — what is read of a text that was written. -/

namespace SpeakerHub

/-- The sibling of a path that ends in a text. -/
@[simp] theorem Path.sibling_concat (p : Path) (file ending : String) :
    Path.sibling (p ++ [.text file]) ending = p ++ [.text (file ++ ending)] := by
  simp [sibling]

/-- The parent of a path that ends in a name. -/
@[simp] theorem Path.parent_concat (p : Path) (name : Name) : Path.parent (p ++ [name]) = p :=
  List.dropLast_concat

/-! ## Actions -/

/-- A value that is made in two steps comes of a value of the first. -/
theorem bind_eq_ok_iff {α β : Type} {x : Except Error α} {f : α → Except Error β} {y : β} :
    (x >>= f) = .ok y ↔ ∃ v, x = .ok v ∧ f v = .ok y := by
  cases x with
  | error e => exact ⟨nofun, fun ⟨_, h, _⟩ => nomatch h⟩
  | ok v =>
    constructor
    · intro h
      exact ⟨v, rfl, h⟩
    · rintro ⟨_, ⟨⟩, h⟩
      exact h

/-- A value that is made of another one comes of that. -/
theorem map_eq_ok_iff {α β : Type} {x : Except Error α} {f : α → β} {y : β} :
    x.map f = .ok y ↔ ∃ v, x = .ok v ∧ f v = y := by
  cases x <;> simp [Except.map]

namespace Action

section

variable {α β : Type} {a : Action α} {d d' : Disk}

/-- After an action that went well the next one goes on. -/
theorem run_bind_ok {x : α} (h : a.run d = (.ok x, d')) (f : α → Action β) :
    (a >>= f).run d = (f x).run d' := by
  have hbind : (a >>= f).run d = (ExceptT.bindCont f (a.run d).1) (a.run d).2 := rfl
  rw [hbind, h]
  rfl

/-- After an action that failed nothing is done. -/
theorem run_bind_error {e : Error} (h : a.run d = (.error e, d')) (f : α → Action β) :
    (a >>= f).run d = (.error e, d') := by
  have hbind : (a >>= f).run d = (ExceptT.bindCont f (a.run d).1) (a.run d).2 := rfl
  rw [hbind, h]
  rfl

end

/-- What is known beforehand is handed on. -/
theorem ok_bind {α β : Type} (x : α) (f : α → Action β) :
    (liftM (.ok x : Except Error α) >>= f) = f x := rfl

/-- A look that goes well is handed on, and changes nothing. -/
theorem run_look_bind_ok {α β : Type} {f : Disk → Except Error α} {d : Disk} {x : α}
    (h : f d = .ok x) (g : α → Action β) : (look f >>= g).run d = (g x).run d :=
  run_bind_ok (congrArg (·, d) h) g

/-- After a look that fails nothing is done. -/
theorem run_look_bind_error {α β : Type} {f : Disk → Except Error α} {d : Disk} {e : Error}
    (h : f d = .error e) (g : α → Action β) : (look f >>= g).run d = (.error e, d) :=
  run_bind_error (congrArg (·, d) h) g

/-- To read the clock changes nothing. -/
theorem run_get_bind {β : Type} (f : Disk → Action β) (d : Disk) :
    (get >>= f).run d = (f d).run d := rfl

/-- A step that goes well. -/
theorem run_step_ok {f : Disk → Except Fault Unit × Disk} {d d' : Disk} (h : f d = (.ok (), d'))
    (path : Path) : (step path f).run d = (.ok (), d') := by
  unfold step
  simp only [ExceptT.run, h]

/-- A step that fails. -/
theorem run_step_error {f : Disk → Except Fault Unit × Disk} {d d' : Disk} {fault : Fault}
    (h : f d = (.error fault, d')) (path : Path) :
    (step path f).run d = (.error (.io path), d') := by
  unfold step
  simp only [ExceptT.run, h]

end Action

namespace Store

/-! ## Writing -/

/-- The disk with a directory made for a document. -/
def made (p : Path) (d : Disk) : Disk :=
  (d.makeDirectories p).2

/-- The disk with the draft of a document beside its place. -/
def drafted (p : Path) (file text : String) (d : Disk) : Disk :=
  ((made p d).put (p ++ [.text (file ++ ".tmp")]) text.toUTF8).2

/-- The disk with the draft in its place. -/
def placed (p : Path) (file text : String) (d : Disk) : Disk :=
  ((drafted p file text d).rename (p ++ [.text (file ++ ".tmp")]) (p ++ [.text file])).2

/-- Making a directory leaves the clock. -/
@[simp] theorem clock_made (p : Path) (d : Disk) : (made p d).clock = d.clock :=
  Disk.clock_makeDirectories d p

/-- The draft can be looked at before it takes its place. -/
theorem look_drafted {p : Path} {file text : String} {d : Disk}
    (hdraft : (made p d).CanPut p (.text (file ++ ".tmp"))) :
    (drafted p file text d).look (p ++ [.text (file ++ ".tmp")])
      = .ok (.file text.toUTF8 d.now) := by
  have hnow : (made p d).now = d.now := by rw [Disk.now, clock_made, Disk.now]
  rw [← hnow]
  exact Disk.look_put hdraft text.toUTF8

/-- **How writing a document ends.** -/
inductive Writes (p : Path) (file text : String) (d : Disk) : Except Error Unit → Disk → Prop where
  /-- There is no directory for it. -/
  | noDirectory (hmakes : ¬d.Makes p p) : Writes p file text d (.error (.io p)) (made p d)
  /-- Its draft cannot be written. -/
  | noDraft (hmakes : d.Makes p p) (hdraft : ¬(made p d).CanPut p (.text (file ++ ".tmp"))) :
      Writes p file text d (.error (.io (p ++ [.text (file ++ ".tmp")]))) (made p d)
  /-- The draft cannot take its place. -/
  | noPlace (hmakes : d.Makes p p) (hdraft : (made p d).CanPut p (.text (file ++ ".tmp")))
      (hplace : ¬(drafted p file text d).CanPut p (.text file)) :
      Writes p file text d (.error (.io (p ++ [.text file]))) (drafted p file text d)
  /-- It is written. -/
  | done (hmakes : d.Makes p p) (hdraft : (made p d).CanPut p (.text (file ++ ".tmp")))
      (hplace : (drafted p file text d).CanPut p (.text file)) :
      Writes p file text d (.ok ()) (placed p file text d)

/-- **Every write ends in one of these ways.** -/
theorem writes (p : Path) (file text : String) (d : Disk) :
    Writes p file text d ((write (p ++ [.text file]) text).run d).1
      ((write (p ++ [.text file]) text).run d).2 := by
  simp only [write, Path.parent_concat, Path.sibling_concat]
  by_cases hmakes : d.Makes p p
  case neg =>
    obtain ⟨fault, hfault⟩ := Disk.makeDirectories_of_not hmakes
    rw [Action.run_bind_error (Action.run_step_error hfault p)]
    exact .noDirectory hmakes
  rw [Action.run_bind_ok (Action.run_step_ok (Disk.makeDirectories_of_makes hmakes) p)]
  by_cases hdraft : (made p d).CanPut p (.text (file ++ ".tmp"))
  case neg =>
    obtain ⟨fault, hfault⟩ := Disk.put_of_not hdraft text.toUTF8
    rw [← made, Action.run_bind_error (Action.run_step_error hfault _)]
    exact .noDraft hmakes hdraft
  rw [← made, Action.run_bind_ok (Action.run_step_ok (Disk.put_of_canPut hdraft text.toUTF8) _),
    ← drafted]
  by_cases hplace : (drafted p file text d).CanPut p (.text file)
  case neg =>
    obtain ⟨fault, hfault⟩ := Disk.rename_of_not hplace (p ++ [.text (file ++ ".tmp")])
    rw [Action.run_step_error hfault]
    exact .noPlace hmakes hdraft hplace
  rw [Action.run_step_ok (Disk.rename_of_canPut (look_drafted hdraft) hplace)]
  exact .done hmakes hdraft hplace

/-! ## What is seen afterwards -/

section

variable {p : Path} {file text : String} {d d' : Disk} {r : Except Error Unit}

/-- The draft of a document does not stand in its place. -/
theorem draft_ne (p : Path) (file : String) :
    p ++ [Name.text (file ++ ".tmp")] ≠ p ++ [Name.text file] := by
  simp

/-- What is seen with the draft beside its place. -/
theorem view_drafted (hdraft : (made p d).CanPut p (.text (file ++ ".tmp"))) {q : Path}
    (hq : q ≠ p ++ [.text (file ++ ".tmp")]) :
    (drafted p file text d).view q = (made p d).view q := by
  rw [drafted, Disk.view_put hdraft, if_neg hq]

/-- What is seen with the draft in its place. -/
theorem view_placed (hdraft : (made p d).CanPut p (.text (file ++ ".tmp")))
    (hplace : (drafted p file text d).CanPut p (.text file)) (q : Path) :
    (placed p file text d).view q = if q = p ++ [.text file] then some (.file text.toUTF8 d.now)
      else if q = p ++ [.text (file ++ ".tmp")] then none else (made p d).view q := by
  rw [placed, Disk.view_rename (look_drafted hdraft) hplace]
  split
  · rfl
  · split
    · rfl
    · exact view_drafted hdraft ‹_›

/-- **Nothing is seen to change** but the document, its draft, and directories that are made. -/
theorem Writes.view_of_ne (h : Writes p file text d r d') {q : Path}
    (hdraft : q ≠ p ++ [.text (file ++ ".tmp")]) (hplace : q ≠ p ++ [.text file]) :
    d'.view q = (made p d).view q := by
  cases h with
  | noDirectory hmakes => rfl
  | noDraft hmakes hnot => rfl
  | noPlace hmakes hput hnot => exact view_drafted hput hdraft
  | done hmakes hput hrename => rw [view_placed hput hrename, if_neg hplace, if_neg hdraft]

/-- **Whatever is new** after a write carries the time of the clock. -/
theorem Writes.view_new (h : Writes p file text d r d') {q : Path} {i : Inode}
    (hview : d'.view q = some i) : d.view q = some i ∨ i.modified = d.now := by
  have hmade {j : Inode} (hj : (made p d).view q = some j) :
      d.view q = some j ∨ j.modified = d.now := by
    by_cases hmakes : d.Makes p q
    · rw [made, Disk.view_makeDirectories_of_makes hmakes, Option.some_inj] at hj
      subst hj
      cases hold : d.view q with
      | none => exact .inr rfl
      | some i => exact .inl rfl
    · exact .inl ((Disk.view_makeDirectories_of_not hmakes).symm.trans hj)
  cases h with
  | noDirectory hmakes => exact hmade hview
  | noDraft hmakes hnot => exact hmade hview
  | noPlace hmakes hput hnot =>
    by_cases hq : q = p ++ [.text (file ++ ".tmp")]
    · subst hq
      rw [Disk.view_of_look (look_drafted hput), Option.some_inj] at hview
      exact .inr (hview ▸ rfl)
    · rw [view_drafted hput hq] at hview
      exact hmade hview
  | done hmakes hput hrename =>
    rw [view_placed hput hrename] at hview
    split at hview
    · exact .inr (Option.some_inj.1 hview ▸ rfl)
    · split at hview
      · cases hview
      · exact hmade hview

/-- **A write that failed** is seen in its draft at most. -/
theorem Writes.view_of_error {e : Error} (h : Writes p file text d (.error e) d') {q : Path}
    (hdraft : q ≠ p ++ [.text (file ++ ".tmp")]) : d'.view q = (made p d).view q := by
  cases h with
  | noDirectory hmakes => rfl
  | noDraft hmakes hnot => rfl
  | noPlace hmakes hput hnot => exact view_drafted hput hdraft

/-- A write leaves the clock. -/
theorem Writes.clock (h : Writes p file text d r d') : d'.clock = d.clock := by
  have hdrafted : (drafted p file text d).clock = d.clock := by
    rw [drafted, Disk.clock_put, clock_made]
  cases h with
  | noDirectory hmakes => exact clock_made p d
  | noDraft hmakes hnot => exact clock_made p d
  | noPlace hmakes hput hnot => exact hdrafted
  | done hmakes hput hrename => rw [placed, Disk.clock_rename, hdrafted]

/-- A write that went well made a directory for the document. -/
theorem Writes.makes_of_ok (h : Writes p file text d (.ok ()) d') : d.Makes p p := by
  cases h with
  | done hmakes _ _ => exact hmakes

/-- After a write that went well there is a directory for the document. -/
theorem Writes.parent_of_ok (h : Writes p file text d (.ok ()) d') :
    ∃ m, d'.look p = .ok (.directory m) := by
  cases h with
  | done hmakes hput hrename =>
    obtain ⟨m, hm⟩ := hput.parent
    refine ⟨m, Disk.look_of_look hm ?_⟩
    rw [view_placed hput hrename, if_neg (by simp), if_neg (by simp)]
    exact Disk.view_of_look hm

/-- **A document that was written** is in its place. -/
theorem Writes.look_of_ok (h : Writes p file text d (.ok ()) d') :
    d'.look (p ++ [.text file]) = .ok (.file text.toUTF8 d.now) := by
  obtain ⟨m, hm⟩ := h.parent_of_ok
  cases h with
  | done hmakes hput hrename =>
    rw [Disk.look_concat hrename.usable, hm, view_placed hput hrename, if_pos rfl, hrename.short]
    rfl

/-- Nothing is made in the directory of a document. -/
theorem view_made_concat (p : Path) (name : Name) (d : Disk) :
    (made p d).view (p ++ [name]) = d.view (p ++ [name]) := by
  apply Disk.view_makeDirectories_of_not
  intro hmakes
  have hlength := hmakes.along.length_le
  rw [List.length_append, List.length_singleton] at hlength
  omega

/-- The draft can take its place if there is no directory there. -/
theorem canPut_drafted (hdraft : (made p d).CanPut p (.text (file ++ ".tmp")))
    (husable : Path.isUnusable (p ++ [.text file]) = false)
    (hshort : (Name.text file).isTooLong = false)
    (hfree : ∀ m, d.view (p ++ [.text file]) ≠ some (.directory m)) :
    (drafted p file text d).CanPut p (.text file) := by
  obtain ⟨m, hm⟩ := hdraft.parent
  have hparent : (drafted p file text d).look p = .ok (.directory m) := by
    apply Disk.look_of_look hm
    rw [view_drafted hdraft (by simp)]
    exact Disk.view_of_look hm
  refine ⟨husable, hshort, ⟨m, hparent⟩, fun m' hm' => ?_⟩
  rw [view_drafted hdraft (draft_ne p file).symm, view_made_concat] at hm'
  exact hfree m' hm'

/-- **A document that was written can be written again**, at any time and with any text. -/
theorem Writes.again (h : Writes p file text d (.ok ()) d') {clock : Int} {more : String}
    {d'' : Disk} (h' : Writes p file more { d' with clock } r d'') : r = .ok () := by
  obtain ⟨m, hm⟩ := h.parent_of_ok
  have hblocked := Entry.not_isBlocked_of_directory (Disk.view_of_look hm)
  cases h with
  | done hmakes hput hrename =>
    let e : Disk := { placed p file text d with clock }
    have hmakes' : e.Makes p p := ⟨hmakes.usable, List.prefix_rfl, hmakes.clear.1, hblocked⟩
    -- In its directory there is the document, and no draft any more.
    have hdraft (m : Int) : e.view (p ++ [.text (file ++ ".tmp")]) ≠ some (.directory m) := by
      show (placed p file text d).view _ ≠ _
      rw [view_placed hput hrename, if_neg (draft_ne p file), if_pos rfl]
      nofun
    have hplace (m : Int) : e.view (p ++ [.text file]) ≠ some (.directory m) := by
      show (placed p file text d).view _ ≠ _
      rw [view_placed hput hrename, if_pos rfl]
      nofun
    cases h' with
    | noDirectory hnot => exact absurd hmakes' hnot
    | noDraft _ hnot =>
      refine absurd ⟨hput.usable, hput.short, hmakes'.look, fun m hm => ?_⟩ hnot
      rw [view_made_concat] at hm
      exact hdraft m hm
    | noPlace _ hput' hnot =>
      exact absurd (canPut_drafted hput' hrename.usable hrename.short hplace) hnot
    | done => rfl

/-- **A write that failed leaves no new directory** for its document, if the document and its draft
can be followed where their directory can. -/
theorem Writes.parent_of_error {e : Error} (h : Writes p file text d (.error e) d')
    (husable : p.isUnusable = false → Path.isUnusable (p ++ [.text file]) = false
      ∧ Path.isUnusable (p ++ [.text (file ++ ".tmp")]) = false)
    (hshort : (Name.text (file ++ ".tmp")).isTooLong = false) : d'.view p = d.view p := by
  rw [h.view_of_error (by simp)]
  by_cases hmakes : d.Makes p p
  case neg => exact Disk.view_makeDirectories_of_not hmakes
  obtain ⟨hplace, hdraft⟩ := husable hmakes.usable
  -- A directory that was made is empty, so neither the draft nor the document could have failed.
  have hold : ∃ m, d.view p = some (.directory m) := by
    cases h with
    | noDirectory hnot => exact absurd hmakes hnot
    | noDraft _ hnot =>
      by_contra hno
      refine hnot ⟨hdraft, hshort, hmakes.look, fun m hm => ?_⟩
      rw [view_made_concat] at hm
      exact hno (Entry.view_parent hm)
    | noPlace _ hput hnot =>
      by_contra hno
      have hname : (Name.text file).isTooLong = false := by
        simp only [Name.isTooLong, Name.size, String.utf8ByteSize_append, gt_iff_lt,
          decide_eq_false_iff_not, Nat.not_lt] at hshort ⊢
        omega
      exact hnot (canPut_drafted hput hplace hname fun m hm => hno (Entry.view_parent hm))
  obtain ⟨m, hm⟩ := hold
  rw [made, Disk.view_makeDirectories_of_makes hmakes, hm]
  rfl

/-- **What a write does not reach looks the same**: short paths that do not lead through the draft,
nor through the document if it was written, and that are not on the way to them. -/
theorem Writes.look_kept (h : Writes p file text d r d') {q : Path} (hshort : q.IsShort)
    (hdraft : ¬p ++ [.text (file ++ ".tmp")] <+: q)
    (hplace : ¬p ++ [.text file] <+: q ∨ ∃ e, r = .error e) (hway : ¬q <+: p) :
    d'.look q = d.look q := by
  have hview (q' : Path) (hq' : q' <+: q) : d'.view q' = (made p d).view q' := by
    have hne : q' ≠ p ++ [.text (file ++ ".tmp")] := fun he => hdraft (he ▸ hq')
    rcases hplace with hplace | ⟨e, rfl⟩
    · exact h.view_of_ne hne fun he => hplace (he ▸ hq')
    · exact h.view_of_error hne
  refine Disk.look_congr_of_short hshort ?_ fun q' hq' => ?_
  · rw [hview q List.prefix_rfl]
    exact Disk.view_makeDirectories_of_not fun hmakes => hway hmakes.along
  · rw [Disk.HasFile, hview q' hq']
    exact Disk.hasFile_makeDirectories

end

/-! ## Reading -/

/-- What is read, by what is looked at. -/
theorem read_eq_look {α : Type} (p : Path) (ofText? : String → Option α) (d : Disk) :
    read p ofText? d = match d.look p with
      | .ok (.file content _) =>
        match String.fromUTF8? content with
        | none => .error (.io p)
        | some text =>
          match ofText? text with
          | none => .error (.corrupted p)
          | some value => .ok value
      | .error .notFound => .error (.notFound p)
      | _ => .error (.io p) := by
  unfold read Disk.content Disk.look
  rcases d.find p with fault | (_ | _)
  · cases fault <;> rfl
  · rfl
  · rfl

/-- **What is read** depends on what is looked at. -/
theorem read_congr {α : Type} {p : Path} {d d' : Disk} (h : d'.look p = d.look p)
    (ofText? : String → Option α) : read p ofText? d' = read p ofText? d := by
  rw [read_eq_look, read_eq_look, h]

/-- **A text that was written is read.** -/
theorem read_file {α : Type} {p : Path} {d : Disk} {text : String} {modified : Int} {value : α}
    (h : d.look p = .ok (.file text.toUTF8 modified)) {ofText? : String → Option α}
    (hvalue : ofText? text = some value) : read p ofText? d = .ok value := by
  have htext : String.fromUTF8? text.toUTF8 = some text := by
    have hvalid : text.toUTF8.IsValidUTF8 := text.isValidUTF8
    rw [String.fromUTF8?, dif_pos hvalid]
    rfl
  simp only [read_eq_look, h, htext, hvalue]

/-- The token of an entry, by what is looked at. -/
theorem token_eq_look (p : Path) (d : Disk) :
    token p d = match d.look p with
      | .ok i => .ok (.ofNanoseconds i.modified)
      | .error .notFound => .ok { value := 0 }
      | .error _ => .error (.io p) := by
  unfold token Disk.look
  rcases d.find p with fault | (_ | _)
  · cases fault <;> rfl
  · rfl
  · rfl

/-- **The token of an entry** depends on what is looked at. -/
theorem token_congr {p : Path} {d d' : Disk} (h : d'.look p = d.look p) :
    token p d' = token p d := by
  rw [token_eq_look, token_eq_look, h]

/-! ## Listing -/

/-- **The names that are listed** along short names: if no file is in the way, those of all the
directories that there are. -/
theorem directories_eq_ok {p : Path} (h : p.IsShort) (husable : p.isUnusable = false) {d : Disk}
    (hclear : ¬d.root.IsBlocked p) :
    ∃ names, directories p d = .ok names ∧ Disk.IsListing names
      ∧ ∀ s, s ∈ names ↔ d.HasDirectory (p ++ [.text s]) := by
  have hlook : d.look p = _ := (Disk.look_of_usable husable d).trans (Entry.look_of_short h)
  cases hview : d.root.view p with
  | none =>
    rw [hview] at hlook
    simp only [if_neg hclear] at hlook
    refine ⟨[], ?_, ⟨.nil, .nil⟩, fun s => iff_of_false List.not_mem_nil ?_⟩
    · rw [directories, Disk.directories_of_not (by simp [hlook]), hlook]
      rfl
    · rintro ⟨m, hm⟩
      obtain ⟨m', hm'⟩ := Entry.view_parent hm
      rw [hview] at hm'
      cases hm'
  | some i =>
    rw [hview] at hlook
    cases i with
    | file content modified =>
      exact absurd ⟨p, List.prefix_rfl, content, modified, hview⟩ hclear
    | directory m =>
      obtain ⟨names, hnames, hlisting, hmem⟩ := Disk.directories_of_directory hlook
      exact ⟨names, by rw [directories, hnames], hlisting, hmem⟩

/-- **Nothing is listed** if the path cannot be followed or a file is in the way. -/
theorem directories_eq_error {p : Path} (h : p.IsShort) {d : Disk}
    (hblocked : p.isUnusable = true ∨ d.root.IsBlocked p) :
    directories p d = .error (.io p) := by
  by_cases husable : p.isUnusable
  · have hlook := Disk.look_of_unusable husable d
    rw [directories, Disk.directories_of_not (by simp [hlook]), hlook]
    rfl
  · rw [Bool.not_eq_true] at husable
    have hfile : d.root.IsBlocked p := hblocked.resolve_left (by simp [husable])
    have hlook : d.look p = _ := (Disk.look_of_usable husable d).trans (Entry.look_of_short h)
    rcases hview : d.root.view p with _ | (⟨content, modified⟩ | m)
    · rw [hview] at hlook
      simp only [if_pos hfile] at hlook
      rw [directories, Disk.directories_of_not (by simp [hlook]), hlook]
      rfl
    · rw [hview] at hlook
      rw [directories, Disk.directories_of_not (by simp [hlook]), hlook]
      rfl
    · exact absurd hfile (Entry.not_isBlocked_of_directory hview)

/-- **The names that are listed** depend on the files on the way and on the directories there. -/
theorem directories_congr {p : Path} (h : p.IsShort) {d d' : Disk}
    (hfiles : ∀ q, q <+: p → (d'.HasFile q ↔ d.HasFile q))
    (hnames : ∀ s, d'.HasDirectory (p ++ [.text s]) ↔ d.HasDirectory (p ++ [.text s])) :
    directories p d' = directories p d := by
  have hblocked : d'.root.IsBlocked p ↔ d.root.IsBlocked p :=
    exists_congr fun q => and_congr_right (hfiles q)
  by_cases hbad : p.isUnusable = true ∨ d.root.IsBlocked p
  · rw [directories_eq_error h hbad, directories_eq_error h (hbad.imp_right hblocked.2)]
  · rw [not_or, Bool.not_eq_true] at hbad
    obtain ⟨names, hok, hlisting, hmem⟩ := directories_eq_ok h hbad.1 hbad.2
    obtain ⟨names', hok', hlisting', hmem'⟩ := directories_eq_ok h hbad.1 (mt hblocked.1 hbad.2)
    rw [hok, hok', hlisting'.eq hlisting fun s => by rw [hmem, hmem', hnames]]

end Store

end SpeakerHub
