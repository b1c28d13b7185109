import Mathlib.Data.List.Basic
import Mathlib.Data.List.TakeWhile
import SpeakerHub.Markup.Printer
import SpeakerHub.Markup.Reader

/-! # Written text reads back

What `escape` and `writeText` write is resolved by `unescape` to the text they started from, and it
carries nothing that a reader would take for markup or trim away.

* **`unescape_append`** — resolving goes on behind a text that resolves on its own.
* **`unescape_escape`** — attribute values read back.
* **`Rereads`** — what a reader needs of written text: the value it stands for, no `<` in it, and
  nothing to trim at its ends.
* **`Rereads.writeText`**, **`Rereads.append`** — text nodes, and text nodes side by side. -/

namespace SpeakerHub.Markup

/-! ## Resolving references -/

/-- Resolving a text and more behind it is resolving the text and then the rest. -/
theorem unescapeFrom_append {s r : List Char} {done : List Char} {open? : Option (List Char)}
    (h : unescapeFrom done open? s = some r) (t : List Char) :
    unescapeFrom done open? (s ++ t) = unescapeFrom r.reverse none t := by
  induction s generalizing done open? with
  | nil =>
    cases open? with
    | none =>
      obtain rfl : done.reverse = r := by simpa [unescapeFrom] using h
      rw [List.nil_append, List.reverse_reverse]
    -- A text that is resolved leaves no reference open.
    | some name => simp [unescapeFrom] at h
  | cons c s ih =>
    rw [List.cons_append]
    cases open? with
    | none =>
      simp only [unescapeFrom] at h ⊢
      split at h
      · rw [if_pos ‹_›]; exact ih h
      · rw [if_neg ‹_›]; exact ih h
    | some name =>
      simp only [unescapeFrom] at h ⊢
      split at h
      · rw [if_pos ‹_›]
        cases hd : resolve? name.reverse with
        | none => simp [hd] at h
        | some d => rw [hd] at h; exact ih h
      · rw [if_neg ‹_›]
        split at h
        · cases h
        · rw [if_neg ‹_›]; exact ih h

/-- What is resolved already stays in front. -/
theorem unescapeFrom_done (done before : List Char) (open? : Option (List Char))
    (text : List Char) :
    unescapeFrom (done ++ before) open? text
      = (unescapeFrom done open? text).map (before.reverse ++ ·) := by
  induction text generalizing done open? with
  | nil => cases open? <;> simp [unescapeFrom]
  | cons c text ih =>
    cases open? with
    | none => simp only [unescapeFrom, ← List.cons_append, ih, apply_ite (Option.map _)]
    | some name =>
      simp only [unescapeFrom, ih, apply_ite (Option.map _), Option.map_none]
      cases resolve? name.reverse with
      | none => rfl
      | some d => simp only [← List.cons_append, ih]

/-- **Resolving goes on behind a text that resolves on its own.** -/
theorem unescape_append {s r : List Char} (h : unescape s = some r) (t : List Char) :
    unescape (s ++ t) = (unescape t).map (r ++ ·) := by
  have hr := unescapeFrom_done [] r.reverse none t
  rw [List.nil_append, List.reverse_reverse] at hr
  rw [unescape, unescapeFrom_append h, hr, unescape]

/-- A character reads back from its written form. -/
theorem unescape_escapeChar (c : Char) : unescape (escapeChar c) = some [c] := by
  unfold escapeChar
  split
  case h_6 hamp _ _ => exact if_neg hamp
  all_goals rfl

/-- A blank reads back from its number. -/
theorem unescape_reference {c : Char} (h : isBlank c) : unescape (reference c) = some [c] := by
  have hc : ((c = ' ' ∨ c = '\t') ∨ c = '\n') ∨ c = '\r' := by simpa [isBlank] using h
  rcases hc with ((rfl | rfl) | rfl) | rfl <;> rfl

/-- A text reads back if each of its characters does. -/
theorem unescape_flatMap {write : Char → List Char} {text : List Char}
    (h : ∀ c ∈ text, unescape (write c) = some [c]) :
    unescape (text.flatMap write) = some text := by
  induction text with
  | nil => rfl
  | cons c text ih =>
    rw [List.flatMap_cons, unescape_append (h c List.mem_cons_self),
      ih fun d hd => h d (List.mem_cons_of_mem c hd)]
    rfl

/-- **Escaped text reads back.** -/
theorem unescape_escape (text : List Char) : unescape (escape text) = some text :=
  unescape_flatMap fun c _ => unescape_escapeChar c

/-! ## What is never written -/

/-- A character is written without any character that markup is made of. -/
theorem escapeChar_clean (c : Char) :
    '<' ∉ escapeChar c ∧ '>' ∉ escapeChar c ∧ '"' ∉ escapeChar c ∧ '\'' ∉ escapeChar c := by
  unfold escapeChar
  split
  case h_6 hlt hgt _ hapos hquot =>
    simp only [List.mem_singleton]
    exact ⟨fun h => hlt h.symm, fun h => hgt h.symm, fun h => hquot h.symm, fun h => hapos h.symm⟩
  all_goals decide

/-- Escaped text does not open a tag. -/
theorem lt_not_mem_escape (text : List Char) : '<' ∉ escape text := by
  intro h
  obtain ⟨c, -, hc⟩ := List.mem_flatMap.1 h
  exact (escapeChar_clean c).1 hc

/-- Escaped text does not close a quoted value. -/
theorem quote_not_mem_escape (text : List Char) : '"' ∉ escape text := by
  intro h
  obtain ⟨c, -, hc⟩ := List.mem_flatMap.1 h
  exact (escapeChar_clean c).2.2.1 hc

/-- A blank is written by its number without markup. -/
theorem lt_not_mem_reference {c : Char} (h : isBlank c) : '<' ∉ reference c := by
  have hc : ((c = ' ' ∨ c = '\t') ∨ c = '\n') ∨ c = '\r' := by simpa [isBlank] using h
  rcases hc with ((rfl | rfl) | rfl) | rfl <;> decide

/-! ## Nothing to trim -/

/-- A text whose two ends are no blanks. -/
structure IsTrimmed (text : List Char) : Prop where
  /-- It begins with no blank. -/
  head : ∀ c ∈ text.head?, isBlank c = false
  /-- It ends with no blank. -/
  last : ∀ c ∈ text.getLast?, isBlank c = false

/-- There is nothing to trim at the start. -/
theorem IsTrimmed.trimStart {text : List Char} (h : IsTrimmed text) : trimStart text = text := by
  cases text with
  | nil => rfl
  | cons c text => rw [Markup.trimStart, List.dropWhile_cons, h.head c rfl, if_neg (by decide)]

/-- There is nothing to trim at the end. -/
theorem IsTrimmed.trimEnd {text : List Char} (h : IsTrimmed text) : trimEnd text = text := by
  have hr : IsTrimmed text.reverse := ⟨by simpa using h.last, by simpa using h.head⟩
  have ht := hr.trimStart
  rw [Markup.trimStart] at ht
  rw [Markup.trimEnd, ht, List.reverse_reverse]

/-- Texts without blanks at their ends have none side by side. -/
theorem IsTrimmed.append {s t : List Char} (hs : IsTrimmed s) (ht : IsTrimmed t) :
    IsTrimmed (s ++ t) := by
  constructor
  · intro c hc
    cases s with
    | nil => exact ht.head c hc
    | cons d s => exact hs.head c hc
  · intro c hc
    rcases List.eq_nil_or_concat t with rfl | ⟨t, d, rfl⟩
    · rw [List.append_nil] at hc
      exact hs.last c hc
    · refine ht.last c ?_
      simpa using hc

/-! ## Text nodes -/

/-- **Written text reads back as `text`**: its references resolve to it, it opens no tag, and a
reader trims nothing from it. -/
structure Rereads (written text : List Char) : Prop where
  /-- The references resolve to the text. -/
  value : unescape written = some text
  /-- No tag is opened. -/
  clean : '<' ∉ written
  /-- Nothing is trimmed. -/
  trimmed : IsTrimmed written
  /-- Only no text is written as nothing. -/
  empty : text = [] → written = []

/-- Nothing reads back as no text. -/
theorem Rereads.nil : Rereads [] [] :=
  ⟨rfl, List.not_mem_nil, ⟨by simp, by simp⟩, fun _ => rfl⟩

/-- Texts side by side read back as one. -/
theorem Rereads.append {w₁ t₁ w₂ t₂ : List Char} (h₁ : Rereads w₁ t₁) (h₂ : Rereads w₂ t₂) :
    Rereads (w₁ ++ w₂) (t₁ ++ t₂) where
  value := by rw [unescape_append h₁.value, h₂.value]; rfl
  clean := by rw [List.mem_append, not_or]; exact ⟨h₁.clean, h₂.clean⟩
  trimmed := h₁.trimmed.append h₂.trimmed
  empty h := by
    rw [List.append_eq_nil_iff] at h
    rw [h₁.empty h.1, h₂.empty h.2, List.append_nil]

/-- A character written by its number has no blank at its ends. -/
theorem isTrimmed_reference (c : Char) : IsTrimmed (reference c) := by
  constructor
  · intro d hd
    obtain rfl : '&' = d := by simpa [reference] using hd
    rfl
  · intro d hd
    rw [reference, List.getLast?_concat] at hd
    obtain rfl : ';' = d := by simpa using hd
    rfl

/-- Blanks written by their numbers read back. -/
theorem Rereads.references {blanks : List Char} (h : ∀ c ∈ blanks, isBlank c) :
    Rereads (blanks.flatMap reference) blanks := by
  induction blanks with
  | nil => exact .nil
  | cons c blanks ih =>
    have hc := h c List.mem_cons_self
    have one : Rereads (reference c) [c] :=
      { value := unescape_reference hc
        clean := lt_not_mem_reference hc
        trimmed := isTrimmed_reference c
        empty := by simp }
    exact one.append (ih fun d hd => h d (List.mem_cons_of_mem c hd))

/-- The written form of a character has no blank at its ends unless it is one. -/
theorem isTrimmed_escapeChar {c : Char} (h : isBlank c = false) : IsTrimmed (escapeChar c) := by
  unfold escapeChar
  split
  case h_6 => exact ⟨by simpa using h, by simpa using h⟩
  all_goals
    constructor
    · rintro d ⟨⟩
      rfl
    · rintro d ⟨⟩
      rfl

/-- The written form of a character is not empty. -/
theorem escapeChar_ne_nil (c : Char) : escapeChar c ≠ [] := by
  unfold escapeChar
  split <;> simp

/-- Escaped text has no blank at its ends if the text has none. -/
theorem IsTrimmed.escape {text : List Char} (h : IsTrimmed text) :
    IsTrimmed (Markup.escape text) := by
  constructor
  · intro c hc
    cases text with
    | nil => simp [Markup.escape] at hc
    | cons d text =>
      rw [Markup.escape, List.flatMap_cons,
        List.head?_append_of_ne_nil _ (escapeChar_ne_nil d)] at hc
      exact (isTrimmed_escapeChar (h.head d rfl)).head c hc
  · intro c hc
    rcases List.eq_nil_or_concat text with rfl | ⟨text, d, rfl⟩
    · simp [Markup.escape] at hc
    · rw [List.concat_eq_append] at hc h
      rw [Markup.escape, List.flatMap_append, List.flatMap_singleton,
        List.getLast?_append_of_ne_nil _ (escapeChar_ne_nil d)] at hc
      exact (isTrimmed_escapeChar (h.last d (by simp))).last c hc

/-- Escaped text without blanks at its ends reads back. -/
theorem Rereads.escape {text : List Char} (h : IsTrimmed text) :
    Rereads (Markup.escape text) text where
  value := unescape_escape text
  clean := lt_not_mem_escape text
  trimmed := h.escape
  empty := by rintro rfl; rfl

/-- The blanks that are cut off at the end stand behind what is left. -/
theorem trimEnd_append (text : List Char) :
    trimEnd text ++ (text.reverse.takeWhile isBlank).reverse = text := by
  rw [trimEnd, ← List.reverse_append, List.takeWhile_append_dropWhile, List.reverse_reverse]

/-- What is trimmed at both ends has no blank there. -/
theorem isTrimmed_trim (text : List Char) : IsTrimmed (trimEnd (trimStart text)) := by
  constructor
  · intro c hc
    have hstart : c ∈ (trimStart text).head? := by
      rw [← trimEnd_append (trimStart text)]
      exact List.mem_head?_append_of_mem_head? hc
    have hnot := List.head?_dropWhile_not isBlank text
    rw [← trimStart, Option.mem_def.1 hstart] at hnot
    simpa using hnot
  · intro c hc
    have hnot := List.head?_dropWhile_not isBlank (trimStart text).reverse
    rw [trimEnd, List.getLast?_reverse] at hc
    rw [Option.mem_def.1 hc] at hnot
    simpa using hnot

/-- **A text node reads back**: the blanks at its ends by their numbers, the rest escaped. -/
theorem Rereads.writeText (text : List Char) : Rereads (Markup.writeText text) text := by
  have hlead : ∀ c ∈ text.takeWhile isBlank, isBlank c := fun c hc =>
    List.mem_takeWhile_imp hc
  have htrail : ∀ c ∈ ((trimStart text).reverse.takeWhile isBlank).reverse, isBlank c :=
    fun c hc => List.mem_takeWhile_imp (List.mem_reverse.1 hc)
  -- The three parts read back on their own, and together they are the text.
  have h := ((Rereads.references hlead).append (.escape (isTrimmed_trim text))).append
    (.references htrail)
  rwa [List.append_assoc (text.takeWhile isBlank), trimEnd_append, trimStart,
    List.takeWhile_append_dropWhile] at h

end SpeakerHub.Markup
