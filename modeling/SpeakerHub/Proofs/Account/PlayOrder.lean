import SpeakerHub.Proofs.Account.Requests
import SpeakerHub.Proofs.Account.Serving

/-! # The order in which recents are shown

Recents are shown as they were played, the latest first. What is sorted by is the stored time as a
number, and what is shown is that number as a timestamp, if it can be written as one; so a number
that is too great for a timestamp comes before all that can be shown.

* **`Dialect.IsShownBefore`** — which of two stored recents is shown first;
  **`exists_showing_order`** — the order has each recent once.
* **`recents_are_latest_first`** — recents are shown in this order.
* **`Dialect.IsUndated`**, **`Recent.IsTooLate`** — what is shown without a time, and why it may
  stand in front all the same.
* **`undated_recents_sink`** — what is shown without a time comes last, unless it is too late. -/

namespace SpeakerHub

open Markup

namespace Dialect

/-! ## The order -/

/-- **Which of two stored recents is shown first**, each with its place in the list: the one that
was played later, or the only one with a number for a time, or else the one that is stored first. -/
def IsShownBefore (x y : Recent × Nat) : Prop :=
  match x.1.playedAt, y.1.playedAt with
  | some at₁, some at₂ => at₂ < at₁ ∨ at₁ = at₂ ∧ x.2 < y.2
  | some _, none => True
  | none, some _ => False
  | none, none => x.2 < y.2

/-- What is sorted in front of something else, and is not the same, is shown before it. -/
theorem isShownBefore_of_zipIdxLE {x y : Recent × Nat} (h : List.zipIdxLE isNoEarlier x y)
    (hne : x.2 ≠ y.2) : IsShownBefore x y := by
  obtain ⟨r, i⟩ := x
  obtain ⟨q, j⟩ := y
  unfold List.zipIdxLE isNoEarlier at h
  unfold IsShownBefore
  -- Only where both times are the same, or both are none, do the places count.
  cases hr : r.playedAt <;> cases hq : q.playedAt <;> simp [hr, hq] at h hne ⊢ <;> omega

/-- **Recents are sorted as they are shown**, each of them once. -/
theorem exists_showing_order (recents : List Recent) :
    ∃ order : List (Recent × Nat), order.Perm recents.zipIdx
      ∧ order.map Prod.fst = recents.mergeSort isNoEarlier ∧ order.Pairwise IsShownBefore := by
  let order := recents.zipIdx.mergeSort (List.zipIdxLE isNoEarlier)
  have hperm : order.Perm recents.zipIdx := List.mergeSort_perm _ _
  have hsorted : order.Pairwise (fun x y => List.zipIdxLE isNoEarlier x y) :=
    List.pairwise_mergeSort (List.zipIdxLE_trans isNoEarlier_trans)
      (List.zipIdxLE_total isNoEarlier_total) _
  have hplaces : (order.map Prod.snd).Nodup :=
    (hperm.map Prod.snd).nodup_iff.2 (by rw [List.zipIdx_map_snd]; exact List.nodup_range')
  have hdistinct : order.Pairwise (fun x y => x.2 ≠ y.2) := List.pairwise_map.1 hplaces
  refine ⟨order, hperm, List.mergeSort_zipIdx, ?_⟩
  exact hsorted.imp₂ (fun _ _ => isShownBefore_of_zipIdxLE) hdistinct

end Dialect

/-- **Recents are shown the latest first.** The children of the element of a list are the elements
of its recents, each once. One that was played later comes before one that was played earlier, one
with a number for a time before one without, and those that are equal in this, or have none, are in
the order in which they are stored. -/
theorem recents_are_latest_first (sources : List Source) (recents : List Recent) :
    ∃ order : List (Recent × Nat), order.Perm recents.zipIdx
      ∧ (Dialect.recents sources recents).children
        = order.map (fun x => (Dialect.recent sources x.1).toNode)
      ∧ order.Pairwise Dialect.IsShownBefore := by
  obtain ⟨order, hperm, hsort, hpairwise⟩ := Dialect.exists_showing_order recents
  refine ⟨order, hperm, ?_, hpairwise⟩
  show ((recents.mergeSort Dialect.isNoEarlier).map (Dialect.recent sources)).map Element.toNode = _
  rw [← hsort, List.map_map, List.map_map]
  rfl

/-! ## What is shown without a time -/

/-- An entry in a list of recents is shown without a time. -/
def Dialect.IsUndated : Node Attributes → Prop
  | .element _ _ children => (Element.leaf "lastplayedat" "").toNode ∈ children
  | .text _ => False

/-- **A recent is too late**: its time is a number after 1970 that has no written form. -/
def Recent.IsTooLate (r : Recent) : Prop :=
  ∃ seconds, r.playedAt = some seconds ∧ 0 < seconds ∧ ¬Timestamp.IsWritable seconds

namespace Dialect

/-- A play is shown with a time if that is a number with a written form. -/
theorem lastPlayedAt_ne_empty_iff {utcTime : String} : lastPlayedAt utcTime ≠ ""
    ↔ ∃ seconds, Numeral.signed? utcTime = some seconds ∧ Timestamp.IsWritable seconds := by
  have hwritten (seconds : Int) : Timestamp.ofSeconds seconds ≠ "" := by
    simp [Timestamp.ofSeconds]
  unfold lastPlayedAt
  cases hseconds : Numeral.signed? utcTime with
  | none => simp
  | some seconds =>
    by_cases h : Timestamp.IsWritable seconds <;> simp [h, hwritten]

/-- The element of a recent is shown without a time exactly if there is none to show. -/
theorem isUndated_recent {sources : List Source} {r : Recent} :
    IsUndated (recent sources r).toNode ↔ lastPlayedAt r.utcTime = "" := by
  have hleaf (name content : String) : (Element.leaf "lastplayedat" "").toNode
      = (Element.leaf name content).toNode ↔ name = "lastplayedat" ∧ content = "" := by
    simp [Element.leaf, Element.text, Element.named, Element.toNode, eq_comm]
  have hsource : (Element.leaf "lastplayedat" "").toNode
      ∉ (servingSource sources r.item).map Element.toNode := by
    intro h
    obtain ⟨x, hx, hnode⟩ := List.mem_map.1 h
    obtain ⟨-, hname⟩ := isWellFormed_servingSource x hx
    have hname' : x.name = "lastplayedat" := (Node.element.inj hnode).1
    rw [hname] at hname'
    exact absurd hname' (by decide)
  show _ ∈ List.map Element.toNode _ ↔ _
  simp [hleaf, hsource]

/-- **What is shown without a time stands in front of nothing with one**, if it is not too late. -/
theorem lastPlayedAt_of_isNoEarlier {r q : Recent} (h : isNoEarlier r q)
    (hearly : ¬r.IsTooLate) (hr : lastPlayedAt r.utcTime = "") : lastPlayedAt q.utcTime = "" := by
  by_contra hq
  obtain ⟨seconds, hseconds, hwritable⟩ := lastPlayedAt_ne_empty_iff.1 hq
  change q.playedAt = some seconds at hseconds
  unfold isNoEarlier at h
  rw [hseconds] at h
  cases hat : r.playedAt with
  | none => simp [hat] at h
  | some later =>
    have hle : seconds ≤ later := by simpa [hat] using h
    -- A number without a written form is above all that have one, or below.
    have hnot : ¬Timestamp.IsWritable later := fun hlater =>
      lastPlayedAt_ne_empty_iff.2 ⟨later, hat, hlater⟩ hr
    have hnotLate : ¬0 < later := fun hpos => hearly ⟨later, hat, hpos, hnot⟩
    unfold Timestamp.IsWritable at hwritable hnot
    omega

/-- **What is too late stands behind nothing that is shown with a time.** -/
theorem lastPlayedAt_of_isTooLate {r q : Recent} (h : isNoEarlier r q) (hq : q.IsTooLate) :
    lastPlayedAt r.utcTime = "" := by
  by_contra hr
  obtain ⟨seconds, hseconds, hwritable⟩ := lastPlayedAt_ne_empty_iff.1 hr
  change r.playedAt = some seconds at hseconds
  obtain ⟨later, hlater, hpos, hnot⟩ := hq
  have hle : later ≤ seconds := by simpa [isNoEarlier, hseconds, hlater] using h
  unfold Timestamp.IsWritable at hwritable hnot
  omega

end Dialect

/-- **What is shown without a time comes last, unless it is too late.** Of the recents in the order
in which they are shown, one without a time stands in front of one with a time only if its own time
is a number too late to be written, and all that are too late stand in front of all with a time. So
those without a time come last exactly if none is too late, or none has a time. -/
theorem undated_recents_sink (sources : List Source) (recents : List Recent) :
    (∃ order : List Recent, order.Perm recents
      ∧ (Dialect.recents sources recents).children
        = order.map (fun r => (Dialect.recent sources r).toNode)
      ∧ order.Pairwise (fun r q => ¬r.IsTooLate →
        Dialect.lastPlayedAt r.utcTime = "" → Dialect.lastPlayedAt q.utcTime = "")
      ∧ order.Pairwise fun r q => q.IsTooLate → Dialect.lastPlayedAt r.utcTime = "")
    ∧ ((Dialect.recents sources recents).children.Pairwise
        (fun x y => Dialect.IsUndated x → Dialect.IsUndated y)
      ↔ ((∃ r ∈ recents, r.IsTooLate) → ∀ r ∈ recents, Dialect.lastPlayedAt r.utcTime = "")) := by
  let order := recents.mergeSort Dialect.isNoEarlier
  have hperm : order.Perm recents := List.mergeSort_perm _ _
  have hchildren : (Dialect.recents sources recents).children
      = order.map fun r => (Dialect.recent sources r).toNode := List.map_map
  have hsorted : order.Pairwise fun r q => Dialect.isNoEarlier r q :=
    List.pairwise_mergeSort Dialect.isNoEarlier_trans Dialect.isNoEarlier_total recents
  refine ⟨⟨order, hperm, hchildren, hsorted.imp Dialect.lastPlayedAt_of_isNoEarlier,
    hsorted.imp Dialect.lastPlayedAt_of_isTooLate⟩, ?_⟩
  rw [hchildren, List.pairwise_map]
  simp only [Dialect.isUndated_recent]
  constructor
  · rintro hsinks ⟨late, hlate, htooLate⟩ r hr
    have hempty : Dialect.lastPlayedAt late.utcTime = "" :=
      Dialect.lastPlayedAt_of_isTooLate (by simpa using Dialect.isNoEarlier_total late late)
        htooLate
    obtain ⟨i, hi, hlate⟩ := List.mem_iff_getElem.1 (hperm.mem_iff.2 hlate)
    obtain ⟨j, hj, hr⟩ := List.mem_iff_getElem.1 (hperm.mem_iff.2 hr)
    -- What is too late stands in front of what has a time, so that this cannot have one.
    rcases lt_trichotomy i j with hij | rfl | hji
    · have h := List.pairwise_iff_getElem.1 hsinks i j hi hj hij
      rw [hlate, hr] at h
      exact h hempty
    · rwa [← hr, hlate]
    · have h := List.pairwise_iff_getElem.1 hsorted j i hj hi hji
      rw [hlate, hr] at h
      exact Dialect.lastPlayedAt_of_isTooLate h htooLate
  · intro hlate
    refine hsorted.imp_of_mem fun {r q} hr hq hle hempty => ?_
    by_cases htooLate : ∃ r ∈ recents, r.IsTooLate
    · exact hlate htooLate q (hperm.mem_iff.1 hq)
    · refine Dialect.lastPlayedAt_of_isNoEarlier hle (fun hr' => htooLate ?_) hempty
      exact ⟨r, hperm.mem_iff.1 hr, hr'⟩

/-- **A recent that is too late is shown in front**, without a time: the greatest number that is
read as one is sorted as the last second of all. -/
theorem undated_recent_in_front :
    let recents : List Recent := [
      { item := { id := "1", name := "Old", location := "/a" }, utcTime := "1600000000" },
      { item := { id := "2", name := "Far", location := "/b" }, utcTime := "9223372036854775807" }]
    ¬(Dialect.recents [] recents).children.Pairwise
      fun x y => Dialect.IsUndated x → Dialect.IsUndated y := by
  intro recents hsinks
  have hsort : recents.mergeSort Dialect.isNoEarlier = recents.reverse := by
    rw [mergeSort_cons_eq Dialect.isNoEarlier_trans Dialect.isNoEarlier_total,
      List.mergeSort_singleton]
    decide
  have hchildren : (Dialect.recents [] recents).children
      = recents.reverse.map fun r => (Dialect.recent [] r).toNode := by
    rw [← hsort]
    exact List.map_map
  rw [hchildren, List.pairwise_map] at hsinks
  simp only [Dialect.isUndated_recent] at hsinks
  revert hsinks
  decide

end SpeakerHub
