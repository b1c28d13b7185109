import Mathlib.Algebra.Group.Nat.Defs
import Mathlib.Data.List.Induction
import SpeakerHub.Text.Numeral

/-! # Numerals are read back

The decimal digits that a number is shown by are read as the number.

* **`Numeral.natural?_toDigits`**, **`unsigned?_repr`**, **`signed?_repr`** — the number is read.
* **`Numeral.repr_inj`** — numbers are told apart by how they are shown.
* **`Numeral.natural?_lt`** — what is read has no more digits than its text.
* **`Numeral.toDigits_of_natural?`** — without a zero in front it has these digits.
* **`Numeral.length_padded`**, **`natural?_padded`** — so is one with zeros in front, up to a
  width. -/

namespace SpeakerHub.Numeral

/-- A decimal digit is read as its value. -/
theorem digit?_digitChar : ∀ {n : Nat}, n < 10 → digit? 10 n.digitChar = some n := by
  decide

/-- Digits behind one another are read one after the other. -/
theorem foldlM_toDigits (n : Nat) :
    (Nat.toDigits 10 n).foldlM (fun m c => (digit? 10 c).map (10 * m + ·)) 0 = some n := by
  induction n using Nat.strongRecOn with
  | ind n ih =>
    by_cases hn : n < 10
    · rw [Nat.toDigits_of_lt_base hn, List.foldlM_cons, digit?_digitChar hn]
      simp
    · have hdiv : n / 10 < n := by omega
      rw [Nat.toDigits_of_base_le (by decide) (by omega), List.foldlM_append, ih _ hdiv]
      simp only [bind, Option.bind_some, List.foldlM_cons, List.foldlM_nil,
        digit?_digitChar (Nat.mod_lt n (by decide)), Option.map_some, pure, Option.some.injEq]
      omega

/-- **The digits of a number** are read as the number. -/
theorem natural?_toDigits (n : Nat) : natural? 10 (Nat.toDigits 10 n) = some n := by
  have hfold := foldlM_toDigits n
  have hne : Nat.toDigits 10 n ≠ [] := Nat.toDigits_ne_nil
  cases hdigits : Nat.toDigits 10 n with
  | nil => exact absurd hdigits hne
  | cons c rest => rwa [hdigits] at hfold

/-- What is no digit is in no number that is shown. -/
theorem not_mem_toDigits (n : Nat) {c : Char} (hc : c.isDigit = false) :
    c ∉ Nat.toDigits 10 n := by
  intro h
  have hdigit := Nat.isDigit_of_mem_toDigits (by decide) (by decide) h
  rw [hc] at hdigit
  cases hdigit

/-- No number is shown with a sign. -/
theorem plus_not_mem_toDigits (n : Nat) : '+' ∉ Nat.toDigits 10 n :=
  not_mem_toDigits n rfl

/-- **A number that is shown is read**, if it is in range. -/
theorem unsigned?_repr {bound n : Nat} (h : n < bound) : unsigned? bound (Nat.repr n) = some n := by
  have hdigits : (Nat.repr n).toList = Nat.toDigits 10 n := by
    rw [Nat.repr_eq_ofList_toDigits, String.toList_ofList]
  have hplus := plus_not_mem_toDigits n
  rw [unsigned?, hdigits]
  split
  case h_1 rest heq =>
    rw [heq] at hplus
    exact absurd List.mem_cons_self hplus
  case h_2 =>
    rw [natural?_toDigits]
    simpa using h

/-- **Numbers are told apart** by how they are shown. -/
theorem repr_inj {m n : Nat} : Nat.repr m = Nat.repr n ↔ m = n := by
  refine ⟨fun h => ?_, congrArg Nat.repr⟩
  have hm : m < max m n + 1 := by omega
  have hn : n < max m n + 1 := by omega
  have hread : some m = some n := by
    rw [← unsigned?_repr hm, ← unsigned?_repr hn, h]
  exact Option.some_inj.1 hread

/-- A whole number is shown by the digits of its amount, behind a sign if it is negative. -/
theorem toList_repr (n : Int) : (Int.repr n).toList
    = if n < 0 then '-' :: Nat.toDigits 10 n.natAbs else Nat.toDigits 10 n.natAbs := by
  have hnat (m : Nat) : (Nat.repr m).toList = Nat.toDigits 10 m := by
    rw [Nat.repr_eq_ofList_toDigits, String.toList_ofList]
  cases n with
  | ofNat m =>
    have hnot : ¬Int.ofNat m < 0 := Int.not_lt.2 (Int.natCast_nonneg m)
    rw [if_neg hnot]
    exact hnat m
  | negSucc m =>
    rw [if_pos (Int.negSucc_lt_zero m)]
    show ("-" ++ Nat.repr (m + 1)).toList = _
    rw [String.toList_append, hnat]
    rfl

/-- **A whole number that is shown is read**, with its sign, if it has 64 bits. -/
theorem signed?_repr {n : Int} (hmin : Int64.minValue.toInt ≤ n) (hmax : n ≤ Int64.maxValue.toInt) :
    signed? (Int.repr n) = some n := by
  have hminus : '-' ∉ Nat.toDigits 10 n.natAbs := not_mem_toDigits _ rfl
  have hplus := plus_not_mem_toDigits n.natAbs
  have hrange : decide (Int64.minValue.toInt ≤ n ∧ n ≤ Int64.maxValue.toInt) = true :=
    decide_eq_true ⟨hmin, hmax⟩
  rw [signed?, toList_repr]
  by_cases hneg : n < 0
  · rw [if_pos hneg]
    have habs : -(n.natAbs : Int) = n := by omega
    simp only [natural?_toDigits]
    show (some (-(n.natAbs : Int))).filter _ = some n
    rw [habs, Option.filter_some, if_pos hrange]
  · rw [if_neg hneg]
    have habs : Int.ofNat n.natAbs = n := Int.natAbs_of_nonneg (by omega)
    split
    case h_1 rest heq =>
      rw [heq] at hminus
      exact absurd List.mem_cons_self hminus
    case h_2 rest heq =>
      rw [heq] at hplus
      exact absurd List.mem_cons_self hplus
    case h_3 =>
      rw [natural?_toDigits, Option.map_some, habs, Option.filter_some, if_pos hrange]

/-! ## What is read -/

/-- A digit is less than its base. -/
theorem digit?_lt {base : Nat} {c : Char} {v : Nat} (h : digit? base c = some v) : v < base := by
  rw [digit?, Option.filter_eq_some_iff] at h
  exact of_decide_eq_true h.2

/-- Digits behind one another make a number less than the next one of their length. -/
theorem lt_of_foldlM {base m n : Nat} {digits : List Char}
    (h : digits.foldlM (fun n c => (digit? base c).map (base * n + ·)) m = some n) :
    n < (m + 1) * base ^ digits.length := by
  induction digits generalizing m with
  | nil =>
    obtain rfl : m = n := Option.some.inj h
    simp
  | cons c digits ih =>
    rw [List.foldlM_cons] at h
    obtain ⟨next, hnext, hrest⟩ := Option.bind_eq_some_iff.1 h
    obtain ⟨v, hv, rfl⟩ := Option.map_eq_some_iff.1 hnext
    -- What is read in front moves one place on, and its digit does not carry.
    have hle : base * m + v + 1 ≤ (m + 1) * base := by
      have hv := digit?_lt hv
      rw [Nat.add_mul, Nat.one_mul, Nat.mul_comm m base]
      omega
    calc n < (base * m + v + 1) * base ^ digits.length := ih hrest
      _ ≤ (m + 1) * base * base ^ digits.length := Nat.mul_le_mul_right _ hle
      _ = (m + 1) * base ^ (c :: digits).length := by
        rw [List.length_cons, Nat.pow_succ, Nat.mul_comm (base ^ _) base, Nat.mul_assoc]

/-- **A number that is read** is less than the next one of the length of its digits. -/
theorem natural?_lt {base n : Nat} {digits : List Char} (h : natural? base digits = some n) :
    n < base ^ digits.length := by
  cases digits with
  | nil => cases h
  | cons c digits =>
    have hlt := lt_of_foldlM (m := 0) h
    rwa [Nat.zero_add, Nat.one_mul] at hlt

/-- A character that is read as a digit is the one that its value is shown by. -/
theorem eq_digitChar_of_digit? {c : Char} {v : Nat} (h : digit? 10 c = some v) :
    c = v.digitChar := by
  have hlt := digit?_lt h
  have hchar : ∀ v < 10, Nat.digitChar v = Char.ofNat (v + '0'.toNat) := by decide
  rw [digit?, Option.filter_eq_some_iff] at h
  obtain ⟨hvalue, -⟩ := h
  split at hvalue
  case isTrue hc =>
    obtain rfl := Option.some.inj hvalue
    have hle : '0'.toNat ≤ c.toNat := hc.1
    rw [hchar _ hlt, Nat.sub_add_cancel hle, Char.ofNat_toNat]
  case isFalse =>
    -- The values of letters are greater.
    exfalso
    split at hvalue
    · have hv := Option.some.inj hvalue
      omega
    · split at hvalue
      · have hv := Option.some.inj hvalue
        omega
      · cases hvalue

/-- A single digit is read as its value. -/
theorem natural?_singleton (c : Char) : natural? 10 [c] = digit? 10 c := by
  simp [natural?]

/-- One more digit is read behind the digits in front of it. -/
theorem natural?_concat {front : List Char} (hne : front ≠ []) (c : Char) :
    natural? 10 (front ++ [c])
      = (natural? 10 front).bind fun m => (digit? 10 c).map (10 * m + ·) := by
  cases front with
  | nil => exact absurd rfl hne
  | cons first front =>
    show (first :: front ++ [c]).foldlM (fun m c => (digit? 10 c).map (10 * m + ·)) 0 = _
    rw [List.foldlM_append]
    refine congrArg (natural? 10 (first :: front)).bind (funext fun m => ?_)
    rw [List.foldlM_cons]
    exact bind_pure _

/-- Only digits are read. -/
theorem isDigit_of_natural? {digits : List Char} {n : Nat} (h : natural? 10 digits = some n) :
    ∀ c ∈ digits, c.isDigit = true := by
  have hdigit {c : Char} {v : Nat} (hv : digit? 10 c = some v) : c.isDigit = true := by
    have hchar : ∀ v < 10, (Nat.digitChar v).isDigit = true := by decide
    rw [eq_digitChar_of_digit? hv]
    exact hchar v (digit?_lt hv)
  induction digits using List.reverseRecOn generalizing n with
  | nil => exact nofun
  | append_singleton front c ih =>
    rw [List.forall_mem_append, List.forall_mem_singleton]
    by_cases hne : front = []
    · subst hne
      exact ⟨nofun, hdigit (natural?_singleton c ▸ h)⟩
    · rw [natural?_concat hne] at h
      obtain ⟨m, hm, hread⟩ := Option.bind_eq_some_iff.1 h
      obtain ⟨v, hv, -⟩ := Option.map_eq_some_iff.1 hread
      exact ⟨ih hm, hdigit hv⟩

/-- **Digits without a zero in front** are those that their number is shown by. -/
theorem toDigits_of_natural? {digits : List Char} {n : Nat} (h : natural? 10 digits = some n)
    (hzero : digits.head? = some '0' → digits.length = 1) : Nat.toDigits 10 n = digits := by
  induction digits using List.reverseRecOn generalizing n with
  | nil => cases h
  | append_singleton front c ih =>
    by_cases hne : front = []
    · subst hne
      have hv : digit? 10 c = some n := natural?_singleton c ▸ h
      rw [eq_digitChar_of_digit? hv]
      exact Nat.toDigits_of_lt_base (digit?_lt hv)
    · rw [natural?_concat hne] at h
      obtain ⟨m, hm, hread⟩ := Option.bind_eq_some_iff.1 h
      obtain ⟨v, hv, rfl⟩ := Option.map_eq_some_iff.1 hread
      have hhead : front.head? ≠ some '0' := by
        intro hfront
        have hlength := hzero (by rw [List.head?_append, hfront, Option.some_or])
        rw [List.length_append, List.length_singleton] at hlength
        exact hne (List.length_eq_zero_iff.1 (Nat.succ.inj hlength))
      have hfront := ih hm (fun h => absurd h hhead)
      have hpos : m ≠ 0 := by
        rintro rfl
        exact hhead (by rw [← hfront]; rfl)
      have hlt := digit?_lt hv
      have hdiv : (10 * m + v) / 10 = m := by omega
      have hmod : (10 * m + v) % 10 = v := by omega
      rw [Nat.toDigits_of_base_le (by decide) (by omega), hdiv, hmod, hfront,
        eq_digitChar_of_digit? hv]

/-- Every decimal digit has a value in a greater base. -/
theorem isSome_digit? {base : Nat} {c : Char} (hbase : 10 ≤ base) (h : c.isDigit = true) :
    (digit? base c).isSome = true := by
  rw [Char.isDigit, Bool.and_eq_true] at h
  have hc : '0' ≤ c ∧ c ≤ '9' := ⟨of_decide_eq_true h.1, of_decide_eq_true h.2⟩
  have hle : c.toNat ≤ '9'.toNat := hc.2
  have hnine : '9'.toNat = '0'.toNat + 9 := rfl
  have hlt : c.toNat - '0'.toNat < base := by omega
  rw [digit?, if_pos hc, Option.filter_some, if_pos (decide_eq_true hlt)]
  rfl

/-! ## Zeros in front -/

/-- Only zero is shown with a zero in front. -/
theorem eq_zero_of_head?_toDigits {n : Nat} (h : (Nat.toDigits 10 n).head? = some '0') :
    n = 0 := by
  induction n using Nat.strongRecOn with
  | ind n ih =>
    by_cases hn : n < 10
    · have hchar : ∀ n < 10, some (Nat.digitChar n) = some '0' → n = 0 := by decide
      rw [Nat.toDigits_of_lt_base hn] at h
      exact hchar n hn h
    · have hdiv : n / 10 < n := by omega
      rw [Nat.toDigits_of_base_le (by decide) (by omega), List.head?_append,
        List.head?_eq_some_head Nat.toDigits_ne_nil, Option.some_or,
        ← List.head?_eq_some_head Nat.toDigits_ne_nil] at h
      have hzero := ih _ hdiv h
      omega

variable {width n : Nat}

/-- A number of at most so many digits is padded to this width. -/
theorem length_padded (hwidth : 0 < width) (h : n < 10 ^ width) :
    (padded width n).length = width := by
  have hle : (Nat.toDigits 10 n).length ≤ width :=
    (Nat.length_toDigits_le_iff (by decide) hwidth).2 h
  rw [padded, List.length_append, List.length_replicate]
  exact Nat.sub_add_cancel hle

/-- Only digits are padded with, and padded. -/
theorem isDigit_of_mem_padded {c : Char} (h : c ∈ padded width n) : c.isDigit = true := by
  rcases List.mem_append.1 h with hzero | hdigit
  · rw [List.eq_of_mem_replicate hzero]
    rfl
  · exact Nat.isDigit_of_mem_toDigits (by decide) (by decide) hdigit

/-- **A padded number is read** as the number. -/
theorem natural?_padded (width n : Nat) : natural? 10 (padded width n) = some n := by
  have hfold (zeros : Nat) : (List.replicate zeros '0' ++ Nat.toDigits 10 n).foldlM
      (fun m c => (digit? 10 c).map (10 * m + ·)) 0 = some n := by
    induction zeros with
    | zero => exact foldlM_toDigits n
    | succ zeros ih =>
      -- A zero in front is read as the number that reading begins with.
      rw [List.replicate_succ, List.cons_append, List.foldlM_cons]
      exact ih
  have hne : padded width n ≠ [] :=
    List.append_ne_nil_of_right_ne_nil _ Nat.toDigits_ne_nil
  cases hdigits : padded width n with
  | nil => exact absurd hdigits hne
  | cons c rest =>
    have h := hfold (width - (Nat.toDigits 10 n).length)
    change (padded width n).foldlM _ 0 = some n at h
    rwa [hdigits] at h

end SpeakerHub.Numeral
