import Mathlib.Data.List.TakeWhile
import SpeakerHub.Text.Scan

/-! # What scans read

A scan that succeeds has read the front of its text. What it was, and what it left, follows from
what its parts have read.

* **`Scan.run_bind_eq_some_iff`** — one scan after another; the other ways to put scans together
  have lemmas of this shape.
* **`Scan.Ends`** — what is left cannot be taken for more of a run of characters.
* **`Scan.run_takeWhile_eq_some_iff`**, **`run_expect_eq_some_iff`** — runs, and given words. -/

namespace SpeakerHub.Scan

variable {α β : Type} {text rest : List Char}

/-! ## Scans that are put together -/

/-- One scan reads behind another. -/
theorem run_bind_eq_some_iff {s : Scan α} {f : α → Scan β} {b : β} :
    (s >>= f).run text = some (b, rest)
      ↔ ∃ a middle, s.run text = some (a, middle) ∧ (f a).run middle = some (b, rest) := by
  rw [StateT.run_bind, Option.bind_eq_bind, Option.bind_eq_some_iff]
  exact Prod.exists

/-- One scan reads behind another that says nothing. -/
theorem run_seqRight_eq_some_iff {s : Scan α} {t : Scan β} {b : β} :
    (s *> t).run text = some (b, rest)
      ↔ ∃ a middle, s.run text = some (a, middle) ∧ t.run middle = some (b, rest) := by
  rw [seqRight_eq_bind, run_bind_eq_some_iff]

/-- Nothing is read for a given value. -/
theorem run_pure_eq_some_iff {a b : α} :
    (pure a : Scan α).run text = some (b, rest) ↔ a = b ∧ text = rest := by
  rw [StateT.run_pure, Option.pure_def, Option.some.injEq, Prod.mk.injEq]

/-- Nothing is read for a value that may be missing. -/
theorem run_lift_eq_some_iff {a? : Option α} {a : α} :
    (liftM a? : Scan α).run text = some (a, rest) ↔ a? = some a ∧ text = rest := by
  cases a? with
  | none => exact iff_of_false nofun nofun
  | some b =>
    show some (b, text) = some (a, rest) ↔ _
    rw [Option.some.injEq, Option.some.injEq, Prod.mk.injEq]

/-- A second scan is tried where the first one fails. -/
theorem run_orElse_eq_some_iff {s t : Scan α} {a : α} :
    (s <|> t).run text = some (a, rest)
      ↔ s.run text = some (a, rest) ∨ s.run text = none ∧ t.run text = some (a, rest) := by
  have hrun : (s <|> t).run text = (s.run text).or (t.run text) := by
    show (s.run text <|> t.run text) = _
    cases s.run text <;> rfl
  rw [hrun, Option.or_eq_some_iff]

/-- What may be missing is read if it is there. What follows depends on it. -/
theorem run_optional_bind (s : Scan α) (f : Option α → Scan β) (text : List Char) :
    (optional s >>= f).run text
      = (s.run text).elim ((f none).run text) fun read => (f (some read.1)).run read.2 := by
  have hoptional : (optional s).run text
      = some ((s.run text).elim (none, text) fun read => (some read.1, read.2)) := by
    show ((s.run text).bind _ <|> some (none, text)) = _
    cases s.run text <;> rfl
  rw [StateT.run_bind, hoptional]
  cases s.run text <;> rfl

/-- A scan of a whole text leaves nothing. -/
theorem all?_eq_some_iff {s : Scan α} {a : α} :
    s.all? text = some a ↔ s.run text = some (a, []) := by
  rw [all?]
  constructor
  · intro h
    split at h
    · cases h
      assumption
    · cases h
  · intro h
    rw [h]

/-! ## Runs of characters -/

/-- **A text does not go on** with a character of a kind. -/
def Ends (p : Char → Bool) (rest : List Char) : Prop :=
  ∀ c ∈ rest.head?, p c = false

/-- The end of a text ends every run. -/
theorem ends_nil (p : Char → Bool) : Ends p [] :=
  nofun

/-- Another character ends a run. -/
theorem ends_cons {p : Char → Bool} {c : Char} : Ends p (c :: rest) ↔ p c = false := by
  simp [Ends]

/-- What ends a run ends every run of fewer characters. -/
theorem Ends.mono {p q : Char → Bool} (h : Ends q rest) (hpq : ∀ c, p c = true → q c = true) :
    Ends p rest :=
  fun c hc => Bool.eq_false_iff.2 fun hp => Bool.eq_false_iff.1 (h c hc) (hpq c hp)

/-- **A run of characters** is read up to the first other one. -/
theorem run_takeWhile_eq_some_iff {p : Char → Bool} {read : List Char} :
    (takeWhile p).run text = some (read, rest)
      ↔ text = read ++ rest ∧ (∀ c ∈ read, p c = true) ∧ Ends p rest := by
  have hrun : (takeWhile p).run text = some (text.takeWhile p, text.dropWhile p) := rfl
  rw [hrun, Option.some.injEq, Prod.mk.injEq]
  constructor
  · rintro ⟨rfl, rfl⟩
    refine ⟨List.takeWhile_append_dropWhile.symm, fun c hc => List.mem_takeWhile_imp hc, ?_⟩
    intro c hc
    have hnot := List.head?_dropWhile_not p text
    rw [hc] at hnot
    simpa using hnot
  · rintro ⟨rfl, hread, hends⟩
    rw [List.takeWhile_append_of_pos hread, List.dropWhile_append_of_pos hread]
    cases rest with
    | nil => exact ⟨List.append_nil _, rfl⟩
    | cons c rest =>
      have hc : p c = false := ends_cons.1 hends
      simp [hc]

/-- A word is looked for, and only read if the text begins with it. -/
theorem run_accept_eq_some_iff {word : String} {found : Bool} :
    (accept word).run text = some (found, rest)
      ↔ found = true ∧ text = word.toList ++ rest
        ∨ found = false ∧ text = rest ∧ ¬word.toList <+: text := by
  have hrun : (accept word).run text = some (if word.toList.isPrefixOf text then
      (true, text.drop word.length) else (false, text)) := by
    show (if word.toList.isPrefixOf text then _ else _ : Scan Bool).run text = _
    split <;> rfl
  rw [hrun, Option.some.injEq]
  by_cases hprefix : word.toList <+: text
  · obtain ⟨behind, rfl⟩ := hprefix
    rw [if_pos (List.isPrefixOf_iff_prefix.2 ⟨behind, rfl⟩), ← String.length_toList,
      List.drop_left, Prod.mk.injEq, List.append_cancel_left_eq]
    simp [eq_comm]
  · rw [if_neg (mt List.isPrefixOf_iff_prefix.1 hprefix), Prod.mk.injEq]
    constructor
    · rintro ⟨rfl, rfl⟩
      exact .inr ⟨rfl, rfl, hprefix⟩
    · rintro (⟨-, rfl⟩ | ⟨rfl, rfl, -⟩)
      · exact absurd (List.prefix_append _ _) hprefix
      · exact ⟨rfl, rfl⟩

/-- **A given word** is read if the text begins with it. -/
theorem run_expect_eq_some_iff {word : String} {u : Unit} :
    (expect word).run text = some (u, rest) ↔ text = word.toList ++ rest := by
  rw [expect, run_bind_eq_some_iff]
  constructor
  · rintro ⟨found, middle, hfound, hrest⟩
    rcases run_accept_eq_some_iff.1 hfound with ⟨rfl, htext⟩ | ⟨rfl, -, -⟩
    · rw [htext, (run_pure_eq_some_iff.1 hrest).2]
    · cases hrest
  · intro htext
    exact ⟨true, rest, run_accept_eq_some_iff.2 (.inl ⟨rfl, htext⟩), rfl⟩

end SpeakerHub.Scan
