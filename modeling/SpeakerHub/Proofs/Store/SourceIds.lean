import Mathlib.Data.Nat.Nth
import SpeakerHub.Proofs.Store.Changes

/-! # Ids of sources

A source that was stored without an id is given a number when it is read. The numbers that are given
are the lowest ones that no source has as its id, in the order of the sources, and counting up to
them does not overflow.

* **`Sources.IsFree`** — a number that may be given; **`Sources.firstFree_eq_iff`** — the first one
  of them from some number on.
* **`Sources.nth_count_eq_firstFree`** — numbers are given in their order;
  **`Sources.nth_isFree_le`** — and are not much greater than the number of sources.
* **`Sources.assignFrom_eq`** — the source that is given the `k`-th free number.
* **`Sources.countIds?`** — the numbers counted one by one, in a counter that may overflow;
  **`Sources.countIds?_eq`** — it does not.
* **`source_ids_are_lowest_free`** — ids in memory and in the store. -/

namespace SpeakerHub

namespace Sources

variable {taken : List Nat} {least n : Nat}

/-! ## The first free number -/

/-- Of more numbers than are taken one is not taken. -/
theorem exists_not_taken (taken : List Nat) (least : Nat) :
    ∃ n ∈ List.range' least (taken.length + 1), n ∉ taken := by
  by_contra h
  push Not at h
  have hle := ((List.nodup_range' (s := least) (n := taken.length + 1)).subperm h).length_le
  rw [List.length_range'] at hle
  omega

/-- **The first free number** is not taken, but all are that come before. -/
theorem firstFree_eq_iff :
    firstFree taken least = n
      ↔ least ≤ n ∧ n ∉ taken ∧ ∀ m, least ≤ m → m < n → m ∈ taken := by
  obtain ⟨x, hx, hfree⟩ := exists_not_taken taken least
  have hsome : ((List.range' least (taken.length + 1)).find? (!taken.contains ·)).isSome := by
    rw [List.find?_isSome]
    exact ⟨x, hx, by simpa using hfree⟩
  obtain ⟨f, hf⟩ := Option.isSome_iff_exists.1 hsome
  have hfirst : firstFree taken least = f := by rw [firstFree, hf, Option.getD_some]
  obtain ⟨hnot, hmem, hbefore⟩ := List.find?_range'_eq_some.1 hf
  have hnot : f ∉ taken := by simpa using hnot
  have hle : least ≤ f := (List.mem_range'_1.1 hmem).1
  have hbefore : ∀ m, least ≤ m → m < f → m ∈ taken := by simpa using hbefore
  rw [hfirst]
  constructor
  · rintro rfl
    exact ⟨hle, hnot, hbefore⟩
  · -- Of two such numbers neither comes before the other.
    rintro ⟨hle', hnot', hbefore'⟩
    rcases Nat.lt_trichotomy f n with hlt | heq | hlt
    · exact absurd (hbefore' f hle hlt) hnot
    · exact heq
    · exact absurd (hbefore n hle' hlt) hnot'

/-- The first free number is none of the numbers before. -/
theorem le_firstFree (taken : List Nat) (least : Nat) : least ≤ firstFree taken least :=
  (firstFree_eq_iff.1 rfl).1

/-- The first free number is not taken. -/
theorem firstFree_not_mem (taken : List Nat) (least : Nat) : firstFree taken least ∉ taken :=
  (firstFree_eq_iff.1 rfl).2.1

/-- A number that is not taken is the first free one from itself on. -/
theorem firstFree_of_not_mem (h : least ∉ taken) : firstFree taken least = least :=
  firstFree_eq_iff.2 ⟨Nat.le_refl _, h, fun m hle hlt => absurd hle (by omega)⟩

/-- A number that is taken is passed over. -/
theorem firstFree_of_mem (h : least ∈ taken) :
    firstFree taken least = firstFree taken (least + 1) := by
  obtain ⟨hle, hnot, hbefore⟩ := firstFree_eq_iff.1 (rfl : firstFree taken (least + 1) = _)
  refine firstFree_eq_iff.2 ⟨by omega, hnot, fun m hm hlt => ?_⟩
  rcases Nat.eq_or_lt_of_le hm with rfl | hm
  · exact h
  · exact hbefore m hm hlt

/-! ## Free numbers in their order -/

/-- A number that may be given to a source: it is high enough, and no source has it as its id. -/
def IsFree (taken : List Nat) (n : Nat) : Prop :=
  Catalog.firstSourceId ≤ n ∧ n ∉ taken

instance (taken : List Nat) : DecidablePred (IsFree taken) :=
  fun _ => inferInstanceAs (Decidable (_ ∧ _))

/-- The first free number from a high one on may be given. -/
theorem isFree_firstFree (h : Catalog.firstSourceId ≤ least) :
    IsFree taken (firstFree taken least) :=
  ⟨h.trans (le_firstFree taken least), firstFree_not_mem taken least⟩

/-- Free numbers never end. -/
theorem infinite_isFree (taken : List Nat) : (Set.ofPred (IsFree taken)).Infinite := by
  refine Set.infinite_of_forall_exists_gt fun n => ?_
  have hle := le_firstFree taken (max Catalog.firstSourceId (n + 1))
  exact ⟨_, isFree_firstFree (Nat.le_max_left _ (n + 1)), by omega⟩

/-- **Free numbers are given in their order**: the first one from some number on comes behind just
those that are lower. -/
theorem nth_count_eq_firstFree (h : Catalog.firstSourceId ≤ least) :
    Nat.nth (IsFree taken) (Nat.count (IsFree taken) least) = firstFree taken least := by
  rw [Nat.nth_count_eq_sInf]
  refine IsLeast.csInf_eq ⟨⟨isFree_firstFree h, le_firstFree taken least⟩, ?_⟩
  rintro m ⟨⟨-, hm⟩, hle⟩
  by_contra hlt
  obtain ⟨-, -, hbefore⟩ := firstFree_eq_iff.1 (rfl : firstFree taken least = _)
  exact hm (hbefore m hle (by omega))

/-- Behind the first free number there is one free number less. -/
theorem count_firstFree_succ (h : Catalog.firstSourceId ≤ least) :
    Nat.count (IsFree taken) (firstFree taken least + 1) = Nat.count (IsFree taken) least + 1 := by
  rw [Nat.count_succ, if_pos (isFree_firstFree h), ← nth_count_eq_firstFree h,
    Nat.count_nth_of_infinite (infinite_isFree taken)]

/-- No number is free among the first ones. -/
theorem count_firstSourceId (taken : List Nat) :
    Nat.count (IsFree taken) Catalog.firstSourceId = 0 := by
  rw [Nat.count_eq_card_filter_range, Finset.card_eq_zero, Finset.filter_eq_empty_iff]
  intro m hm hfree
  exact absurd hfree.1 (by simpa using hm)

/-- All numbers are free but the first ones and those that are taken. -/
theorem le_count_isFree (taken : List Nat) (n : Nat) :
    n ≤ Catalog.firstSourceId + taken.length + Nat.count (IsFree taken) n := by
  have hsub : Finset.range n ⊆ Finset.range Catalog.firstSourceId ∪ taken.toFinset
      ∪ {m ∈ Finset.range n | IsFree taken m} := by
    intro m hm
    by_cases hfree : IsFree taken m
    · exact Finset.mem_union_right _ (Finset.mem_filter.2 ⟨hm, hfree⟩)
    · rw [IsFree, not_and_or, Nat.not_le, not_not] at hfree
      exact Finset.mem_union_left _ (by simpa using hfree)
  calc n = (Finset.range n).card := (Finset.card_range n).symm
    _ ≤ _ := Finset.card_le_card hsub
    _ ≤ _ := Finset.card_union_le _ _
    _ ≤ (Finset.range Catalog.firstSourceId).card + taken.toFinset.card
        + Nat.count (IsFree taken) n := by
      rw [Nat.count_eq_card_filter_range]
      exact Nat.add_le_add_right (Finset.card_union_le _ _) _
    _ ≤ _ := by
      rw [Finset.card_range]
      have hle := List.toFinset_card_le taken
      omega

/-- **Free numbers are low**: at most those that are taken are passed over. -/
theorem nth_isFree_le (taken : List Nat) (k : Nat) :
    Nat.nth (IsFree taken) k ≤ Catalog.firstSourceId + taken.length + k := by
  have hcount := le_count_isFree taken (Catalog.firstSourceId + taken.length + k + 1)
  have hlt : k < Nat.count (IsFree taken) (Catalog.firstSourceId + taken.length + k + 1) := by
    omega
  exact Nat.le_of_lt_succ (Nat.nth_lt_of_lt_count hlt)

/-! ## Giving them -/

section

variable {x : Source} {rest : List Source}

/-- A source without an id is given the first free number. -/
theorem assignFrom_cons_of_isEmpty (h : x.id.isEmpty) :
    assignFrom taken least (x :: rest) = { x with id := Nat.repr (firstFree taken least) }
      :: assignFrom taken (firstFree taken least + 1) rest := by
  rw [assignFrom, if_pos h]

/-- A source with an id is left. -/
theorem assignFrom_cons_of_not (h : ¬x.id.isEmpty) :
    assignFrom taken least (x :: rest) = x :: assignFrom taken least rest := by
  rw [assignFrom, if_neg h]

end

/-- **The `k`-th source without an id is given the `k`-th free number**; all else stays. -/
theorem assignFrom_eq (taken : List Nat) {least : Nat} (h : Catalog.firstSourceId ≤ least)
    (sources : List Source) :
    assignFrom taken least sources = sources.mapIdx fun i x =>
      if x.id.isEmpty then
        { x with id := Nat.repr (Nat.nth (IsFree taken)
            (Nat.count (IsFree taken) least + (sources.take i).countP (·.id.isEmpty))) }
      else x := by
  induction sources generalizing least with
  | nil => rfl
  | cons x rest ih =>
    have hnext := h.trans (le_firstFree taken least)
    by_cases hx : x.id.isEmpty
    · rw [assignFrom_cons_of_isEmpty hx, ih (Nat.le_succ_of_le hnext), List.mapIdx_cons, if_pos hx,
        List.take_zero, List.countP_nil, Nat.add_zero, nth_count_eq_firstFree h,
        count_firstFree_succ h]
      simp only [List.take_succ_cons, List.countP_cons, hx, if_true, Nat.add_assoc, Nat.add_comm 1]
    · rw [assignFrom_cons_of_not hx, ih h, List.mapIdx_cons, if_neg hx]
      simp only [List.take_succ_cons, List.countP_cons, hx, Bool.false_eq_true, if_false,
        Nat.add_zero]

/-- Sources that all have ids keep them. -/
theorem assignFrom_of_ids {sources : List Source} (h : ∀ x ∈ sources, x.id ≠ "")
    (taken : List Nat) (least : Nat) : assignFrom taken least sources = sources := by
  induction sources with
  | nil => rfl
  | cons x rest ih =>
    rw [List.forall_mem_cons] at h
    have hx : ¬x.id.isEmpty := by simpa using h.1
    rw [assignFrom_cons_of_not hx, ih h.2]

/-- No source is left without an id. -/
theorem id_ne_of_mem_assignFrom {sources : List Source} {x : Source}
    (h : x ∈ assignFrom taken least sources) : x.id ≠ "" := by
  induction sources generalizing least with
  | nil => exact absurd h List.not_mem_nil
  | cons y rest ih =>
    by_cases hy : y.id.isEmpty
    · rw [assignFrom_cons_of_isEmpty hy] at h
      rcases List.mem_cons.1 h with rfl | h
      · exact Nat.repr_ne_empty
      · exact ih h
    · rw [assignFrom_cons_of_not hy] at h
      rcases List.mem_cons.1 h with rfl | h
      · simpa using hy
      · exact ih h

/-- Sources further behind do not matter. -/
theorem assignFrom_isPrefix (taken : List Nat) (least : Nat) (sources more : List Source) :
    assignFrom taken least sources <+: assignFrom taken least (sources ++ more) := by
  induction sources generalizing least with
  | nil => exact List.nil_prefix
  | cons x rest ih =>
    rw [List.cons_append]
    by_cases hx : x.id.isEmpty
    · rw [assignFrom_cons_of_isEmpty hx, assignFrom_cons_of_isEmpty hx]
      exact List.cons_prefix_cons.2 ⟨rfl, ih _⟩
    · rw [assignFrom_cons_of_not hx, assignFrom_cons_of_not hx]
      exact List.cons_prefix_cons.2 ⟨rfl, ih _⟩

/-! ## Counting up to them -/

/-- Counts up from a number to the first one that is not taken, if a counter of 64 bits goes so
far. -/
def skip? (taken : List Nat) (n : Nat) : Option Nat :=
  if n ∈ taken then
    if n + 1 < UInt64.size then skip? taken (n + 1) else none
  else some n
termination_by UInt64.size - n

/-- Gives numbers to the sources without an id by counting up, as long as the counter does not
overflow. -/
def countFrom? (taken : List Nat) (least : Nat) : List Source → Option (List Source)
  | [] => some []
  | x :: rest =>
    if x.id.isEmpty then do
      let n ← skip? taken least
      guard (n + 1 < UInt64.size)
      return { x with id := Nat.repr n } :: (← countFrom? taken (n + 1) rest)
    else do
      return x :: (← countFrom? taken least rest)

/-- Gives ids by counting up from the lowest number. -/
def countIds? (sources : List Source) : Option (List Source) :=
  countFrom? (numbers sources) Catalog.firstSourceId sources

/-- **Counting up ends at the first free number**, if that is in range. -/
theorem skip?_eq (h : firstFree taken n < UInt64.size) :
    skip? taken n = some (firstFree taken n) := by
  fun_induction skip? taken n with
  | case1 n hmem hlt ih =>
    rw [firstFree_of_mem hmem] at h ⊢
    exact ih h
  | case2 n hmem hlt =>
    -- The first free number comes behind this one, so it is not in range either.
    rw [firstFree_of_mem hmem] at h
    exact absurd ((le_firstFree taken (n + 1)).trans_lt h) hlt
  | case3 n hmem => rw [firstFree_of_not_mem hmem]

/-- **The counter does not overflow** if there is room for all numbers that are taken or given. -/
theorem countFrom?_eq (hleast : Catalog.firstSourceId ≤ least) {sources : List Source}
    (hroom : Catalog.firstSourceId + taken.length + Nat.count (IsFree taken) least
      + sources.countP (·.id.isEmpty) < UInt64.size) :
    countFrom? taken least sources = some (assignFrom taken least sources) := by
  induction sources generalizing least with
  | nil => rfl
  | cons x rest ih =>
    rw [List.countP_cons] at hroom
    by_cases hx : x.id.isEmpty
    · rw [if_pos hx] at hroom
      have hlow := nth_isFree_le taken (Nat.count (IsFree taken) least)
      rw [nth_count_eq_firstFree hleast] at hlow
      have hnext := hleast.trans (le_firstFree taken least)
      have hskip : skip? taken least = some (firstFree taken least) := skip?_eq (by omega)
      have hrest : countFrom? taken (firstFree taken least + 1) rest
          = some (assignFrom taken (firstFree taken least + 1) rest) := by
        apply ih (by omega)
        rw [count_firstFree_succ hleast]
        omega
      have hguard : firstFree taken least + 1 < UInt64.size := by omega
      rw [countFrom?, if_pos hx, assignFrom_cons_of_isEmpty hx, hskip]
      simp [hrest, hguard]
    · rw [if_neg hx, Nat.add_zero] at hroom
      rw [countFrom?, if_neg hx, assignFrom_cons_of_not hx, ih hleast hroom]
      rfl

/-- Every source is without an id or has at most one number. -/
theorem length_numbers_add_le (sources : List Source) :
    (numbers sources).length + sources.countP (·.id.isEmpty) ≤ sources.length := by
  induction sources with
  | nil => simp [numbers]
  | cons x rest ih =>
    rw [numbers] at ih ⊢
    rw [List.countP_cons, List.length_cons, List.filterMap_cons]
    by_cases hx : x.id.isEmpty
    · have hid : x.id = "" := by simpa using hx
      have hnone : Numeral.unsigned? UInt64.size x.id = none := by
        rw [hid]
        decide
      rw [hnone, if_pos hx]
      simp only
      omega
    · rw [if_neg hx]
      cases Numeral.unsigned? UInt64.size x.id with
      | none => simp only; omega
      | some n => simp only [List.length_cons]; omega

/-- **Numbers are counted without an overflow** for every list that leaves room for them. -/
theorem countIds?_eq {sources : List Source}
    (h : sources.length < UInt64.size - Catalog.firstSourceId) :
    countIds? sources = some (assignIds sources) := by
  have hle := length_numbers_add_le sources
  refine countFrom?_eq (Nat.le_refl _) ?_
  rw [count_firstSourceId]
  omega

/-! ## Ids are told apart -/

section

variable {sources : List Source} {i j : Nat} {x y s : Source}

/-- A source without an id in front of a place counts there. -/
theorem countP_take_lt (hij : i < j) (hs : sources[i]? = some s) (hid : s.id = "") :
    (sources.take i).countP (·.id.isEmpty) < (sources.take j).countP (·.id.isEmpty) := by
  have hsucc : (sources.take (i + 1)).countP (·.id.isEmpty)
      = (sources.take i).countP (·.id.isEmpty) + 1 := by
    rw [List.take_add_one, hs, Option.toList_some, List.countP_append]
    simp [hid]
  have hsub : (sources.take (i + 1)).Sublist (sources.take j) := List.take_sublist_take_left hij
  have hle := hsub.countP_le (p := (·.id.isEmpty))
  omega

/-- **What is given** to the sources, by their places. -/
theorem getElem?_assignIds (hx : (assignIds sources)[i]? = some x) :
    ∃ s, sources[i]? = some s ∧ (s.id ≠ "" → x = s)
      ∧ (s.id = "" → x.id = Nat.repr (Nat.nth (IsFree (numbers sources))
          ((sources.take i).countP (·.id.isEmpty)))) := by
  rw [assignIds, assignFrom_eq _ (Nat.le_refl _), List.getElem?_mapIdx,
    Option.map_eq_some_iff] at hx
  obtain ⟨s, hs, hx⟩ := hx
  rw [count_firstSourceId, Nat.zero_add] at hx
  refine ⟨s, hs, fun hid => ?_, fun hid => ?_⟩
  · rw [← hx, if_neg (by simpa using hid)]
  · rw [← hx, if_pos (by simpa using hid)]

/-- The number that a source is given is in range. -/
theorem nth_isFree_lt (h : sources.length < UInt64.size - Catalog.firstSourceId)
    (hs : sources[i]? = some s) (hid : s.id = "") :
    Nat.nth (IsFree (numbers sources)) ((sources.take i).countP (·.id.isEmpty))
      < UInt64.size := by
  have hi : i < sources.length := (List.getElem?_eq_some_iff.1 hs).1
  have hlt := countP_take_lt hi hs hid
  rw [List.take_length] at hlt
  have hlow := nth_isFree_le (numbers sources) ((sources.take i).countP (·.id.isEmpty))
  have hroom := length_numbers_add_le sources
  omega

/-- **An id that is given** is no other source's id, whether that was given or was there before. -/
theorem id_ne_of_getElem? (h : sources.length < UInt64.size - Catalog.firstSourceId)
    (hij : i ≠ j) (hs : sources[i]? = some s) (hid : s.id = "")
    (hx : (assignIds sources)[i]? = some x) (hy : (assignIds sources)[j]? = some y) :
    x.id ≠ y.id := by
  obtain ⟨s', hs', -, hx⟩ := getElem?_assignIds hx
  obtain rfl := Option.some_inj.1 (hs.symm.trans hs')
  obtain ⟨t, ht, hold, hnew⟩ := getElem?_assignIds hy
  rw [hx hid]
  by_cases htid : t.id = ""
  · rw [hnew htid, Ne, Numeral.repr_inj, (Nat.nth_injective (infinite_isFree _)).eq_iff]
    rcases Nat.lt_or_gt_of_ne hij with hij | hij
    · exact (countP_take_lt hij hs hid).ne
    · exact (countP_take_lt hij ht htid).ne'
  · -- The number of an id that was there before is taken.
    rw [hold htid]
    intro heq
    have hread := Numeral.unsigned?_repr (nth_isFree_lt h hs hid)
    rw [heq] at hread
    have hmem : _ ∈ numbers sources :=
      List.mem_filterMap.2 ⟨t, List.mem_of_getElem? ht, hread⟩
    exact (Nat.nth_mem_of_infinite (infinite_isFree (numbers sources)) _).2 hmem

end

/-- **Ids that were given once** are kept. -/
theorem assignIds_assignIds (sources : List Source) :
    assignIds (assignIds sources) = assignIds sources :=
  assignFrom_of_ids (fun _ => id_ne_of_mem_assignFrom) _ _

/-- **Sources without an id that are added at the end** change no id. -/
theorem assignIds_isPrefix (sources : List Source) {more : List Source}
    (h : ∀ x ∈ more, x.id = "") : assignIds sources <+: assignIds (sources ++ more) := by
  have hnumbers : numbers (sources ++ more) = numbers sources := by
    have hnone : numbers more = [] := by
      rw [numbers, List.filterMap_eq_nil_iff]
      intro x hx
      rw [h x hx]
      decide
    rw [numbers, List.filterMap_append, ← numbers, ← numbers, hnone, List.append_nil]
  rw [assignIds, assignIds, hnumbers]
  exact assignFrom_isPrefix _ _ sources more

end Sources

namespace Store

/-- **Sources that were read can be stored**: whether that goes well or not, the same are read
afterwards. -/
theorem sources_saveSources {s : Store} {account : Identifier} {d : Disk} {sources : List Source}
    (h : s.sources account d = .ok sources) :
    s.sources account ((s.saveSources account sources).run d).2 = .ok sources := by
  have hsave : s.saveSources account sources = (Save.sources account.text sources).run s := by
    rw [Save.run, Identifier.ofText_eq_ok_iff.2 rfl]
    rfl
  have hsources : Sources.assignIds sources = sources := by
    obtain ⟨stored, -, rfl⟩ := map_eq_ok_iff.1 h
    exact Sources.assignIds_assignIds stored
  rw [hsave]
  rcases (Save.sources account.text sources).change s d with ⟨-, hchange⟩ | ⟨-, hchange⟩
  · rw [hchange.sources_saved, hsources]
  · have hother : (none : Option Save).bind Save.list? ≠ some (account.text, .sources) := by
      simp
    exact (hchange.sources_iff hother sources).2 h

end Store

/-- **Ids of sources are unique, minimal and stable.** In every list that leaves room for them,
counting up from the lowest number does not overflow and leaves all sources in their places with all
their fields, but that the `k`-th of those without an id gets the `k`-th number that is no id of any
source in the list. No id that is given is the id of another source, no source is left without one,
to give ids once more changes nothing, and further sources without ids that are added at the end
change no id. Of every store, the sources that were read can be stored and are read again as they
were. -/
theorem source_ids_are_lowest_free :
    (∀ sources : List Source, sources.length < UInt64.size - Catalog.firstSourceId →
      Sources.countIds? sources = some (Sources.assignIds sources)
      ∧ (Sources.assignIds sources = sources.mapIdx fun i x =>
          if x.id.isEmpty then
            { x with id := Nat.repr (Nat.nth
                (fun n => Catalog.firstSourceId ≤ n ∧ n ∉ Sources.numbers sources)
                ((sources.take i).countP (·.id.isEmpty))) }
          else x)
      ∧ (∀ (i j : Nat) (s x y : Source), i ≠ j → sources[i]? = some s → s.id = "" →
          (Sources.assignIds sources)[i]? = some x → (Sources.assignIds sources)[j]? = some y →
          x.id ≠ y.id)
      ∧ (∀ x ∈ Sources.assignIds sources, x.id ≠ "")
      ∧ Sources.assignIds (Sources.assignIds sources) = Sources.assignIds sources
      ∧ ∀ more : List Source, (∀ x ∈ more, x.id = "") →
          Sources.assignIds sources <+: Sources.assignIds (sources ++ more))
    ∧ ∀ (s : Store) (account : Identifier) (d : Disk) (sources : List Source),
      s.sources account d = .ok sources →
        s.sources account ((s.saveSources account sources).run d).2 = .ok sources := by
  constructor
  · intro sources h
    refine ⟨Sources.countIds?_eq h, ?_, ?_, ?_, Sources.assignIds_assignIds sources, ?_⟩
    · have hassign := Sources.assignFrom_eq (Sources.numbers sources) (Nat.le_refl _) sources
      rw [Sources.count_firstSourceId] at hassign
      simp only [Nat.zero_add] at hassign
      exact hassign
    · intro i j s x y hij hs hid hx hy
      exact Sources.id_ne_of_getElem? h hij hs hid hx hy
    · exact fun x hx => Sources.id_ne_of_mem_assignFrom hx
    · exact fun more hmore => Sources.assignIds_isPrefix sources hmore
  · exact fun s account d sources h => Store.sources_saveSources h

/-- Numbers are passed over that are ids further behind, however they are written. -/
theorem taken_numbers_are_passed_over :
    let sources : List Source :=
      [{ id := "" }, { id := "100002" }, { id := "" }, { id := "+0100001" }, { id := "aux" }]
    (Sources.countIds? sources).map (List.map (·.id))
      = some ["100003", "100002", "100004", "+0100001", "aux"] := by
  intro sources
  obtain ⟨hcount, -⟩ := source_ids_are_lowest_free.1 sources (by decide)
  rw [hcount]
  decide

end SpeakerHub
