/-! # Changing one of a list

A list in which one entry stands for each thing: what is known is changed where it stands, what is
new is added at the end.

* **`upsert`** — the entry after the change, and the list with it; **`upsert_eq`** — which entry it
  is, and where it stands. -/

namespace SpeakerHub

/-- The list in which the first entry that `isSame` is changed, or else `new` is added at the end,
together with the entry that was changed or added. -/
def upsert {α : Type} (isSame : α → Bool) (change : α → α) (new : α) : List α → α × List α
  | [] => (new, [new])
  | x :: rest =>
    if isSame x then (change x, change x :: rest)
    else
      let (entry, rest) := upsert isSame change new rest
      (entry, x :: rest)

/-- **What changing one of a list does**: the first entry that is the same is changed where it
stands; if there is none, the new one comes last. -/
theorem upsert_eq {α : Type} (isSame : α → Bool) (change : α → α) (new : α) (xs : List α) :
    ∃ front old? back, xs = front ++ old?.toList ++ back ∧ (∀ x ∈ front, isSame x = false)
      ∧ (∀ x ∈ old?, isSame x = true) ∧ (old? = none → back = [])
      ∧ upsert isSame change new xs
        = (old?.elim new change, front ++ old?.elim new change :: back) := by
  induction xs with
  | nil => exact ⟨[], none, [], rfl, by simp, by simp, fun _ => rfl, rfl⟩
  | cons x rest ih =>
    by_cases h : isSame x
    · exact ⟨[], some x, rest, rfl, by simp, by simpa using h, by simp, by simp [upsert, h]⟩
    · obtain ⟨front, old?, back, hrest, hfront, hold, hback, hupsert⟩ := ih
      refine ⟨x :: front, old?, back, by simp [hrest], ?_, hold, hback, ?_⟩
      · intro y hy
        rcases List.mem_cons.1 hy with rfl | hy
        · exact Bool.eq_false_iff.2 h
        · exact hfront y hy
      · simp [upsert, h, hupsert]

end SpeakerHub
