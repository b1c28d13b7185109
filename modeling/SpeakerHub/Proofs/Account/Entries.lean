import SpeakerHub.Proofs.Account.Runs

/-! # Lists with one entry for each key

The presets and the recents of an account grow post by post. Every post has a key, and there is one
entry for each key that was posted, in the order in which the keys were first posted; a post changes
the entry of its key where it stands, or adds one at the end.

* **`upsert_filterMap`** — changing one of a list that is made from distinct keys.
* **`eraseDups_concat_of_mem`**, **`eraseDups_concat_of_not_mem`** — one key more.
* **`upsert_eraseDups`** — one post more is one change of the list.
* **`ReadsAs`** — a stored list reads as what its posts make up. -/

namespace SpeakerHub

/-! ## Lists made from distinct keys -/

/-- **Changing one of a list that is made from distinct keys** changes what is made from its key, or
adds the new one at the end. -/
theorem upsert_filterMap {α κ : Type} [DecidableEq κ] {isSame : α → Bool} {change : α → α} {new : α}
    {key : κ} {make : κ → Option α} {keys : List κ} (hnodup : keys.Nodup)
    (hmake : ∀ k ∈ keys, ∃ x, make k = some x ∧ (isSame x = true ↔ k = key)) :
    (upsert isSame change new (keys.filterMap make)).2
      = if key ∈ keys then
          keys.filterMap fun k => if k = key then (make k).map change else make k
        else keys.filterMap make ++ [new] := by
  induction keys with
  | nil => rfl
  | cons k keys ih =>
    obtain ⟨hk, hnodup⟩ := List.nodup_cons.1 hnodup
    obtain ⟨x, hx, hsame⟩ := hmake k List.mem_cons_self
    have hrest := ih hnodup fun k' hk' => hmake k' (List.mem_cons_of_mem k hk')
    rw [List.filterMap_cons_some hx]
    by_cases hkey : k = key
    · -- The entry is here, and as the keys are distinct none of the rest is changed.
      subst hkey
      have hothers : keys.filterMap make
          = keys.filterMap fun k' => if k' = k then (make k').map change else make k' := by
        refine List.filterMap_congr fun k' hk' => ?_
        have hne : k' ≠ k := by
          rintro rfl
          exact hk hk'
        rw [if_neg hne]
      rw [upsert, if_pos (hsame.2 rfl), if_pos List.mem_cons_self,
        List.filterMap_cons_some (b := change x) (by rw [if_pos rfl, hx]; rfl), ← hothers]
    · -- It is further on, if anywhere.
      have hnot : ¬isSame x = true := fun h => hkey (hsame.1 h)
      rw [upsert, if_neg hnot]
      change x :: (upsert isSame change new (keys.filterMap make)).2 = _
      rw [hrest]
      by_cases hmem : key ∈ keys
      · rw [if_pos hmem, if_pos (List.mem_cons_of_mem k hmem),
          List.filterMap_cons_some (b := x) (by rw [if_neg hkey, hx])]
      · have hmem' : key ∉ k :: keys := by simp [hmem, Ne.symm hkey]
        rw [if_neg hmem, if_neg hmem', List.cons_append]

/-- What is made from every key can be told from the keys. -/
theorem map_filterMap_eq {α β κ : Type} {make : κ → Option α} {f : α → β} {g : κ → β}
    {keys : List κ} (h : ∀ k ∈ keys, ∃ x, make k = some x ∧ f x = g k) :
    (keys.filterMap make).map f = keys.map g := by
  induction keys with
  | nil => rfl
  | cons k keys ih =>
    obtain ⟨x, hx, hf⟩ := h k List.mem_cons_self
    rw [List.filterMap_cons_some hx, List.map_cons, List.map_cons, hf,
      ih fun k' hk' => h k' (List.mem_cons_of_mem k hk')]

/-- **Distinct keys are numbered** by their places. -/
theorem map_idxOf_of_nodup {κ : Type} [DecidableEq κ] {keys : List κ} (h : keys.Nodup) :
    keys.map (fun k => keys.idxOf k + 1) = List.range' 1 keys.length := by
  apply List.ext_getElem
  · simp
  · intro i hi _
    rw [List.getElem_map, List.getElem_range', h.idxOf_getElem]
    omega

/-! ## Keys in the order of their first use -/

section

variable {κ : Type} [DecidableEq κ] {keys : List κ} {key : κ}

/-- Keys that were used stay in front of those that are new. -/
theorem exists_eraseDups_append (keys more : List κ) :
    ∃ new, (keys ++ more).eraseDups = keys.eraseDups ++ new :=
  ⟨_, List.eraseDups_append⟩

/-- A key that was used before is not new. -/
theorem eraseDups_concat_of_mem (h : key ∈ keys) : (keys ++ [key]).eraseDups = keys.eraseDups := by
  have hnone : [key].removeAll keys = [] := by
    rw [List.removeAll, List.filter_cons_of_neg (by simpa using h), List.filter_nil]
  rw [List.eraseDups_append, hnone, List.eraseDups_nil, List.append_nil]

/-- Any other key comes last. -/
theorem eraseDups_concat_of_not_mem (h : key ∉ keys) :
    (keys ++ [key]).eraseDups = keys.eraseDups ++ [key] := by
  have hall : [key].removeAll keys = [key] := by
    rw [List.removeAll, List.filter_cons_of_pos (by simpa using h), List.filter_nil]
  rw [List.eraseDups_append, hall, List.eraseDups_cons, List.filter_nil, List.eraseDups_nil]

/-- **One post more is one change of the list**: the entry of its key is changed where it stands, or
comes last if the key is new, and the others are made as before. -/
theorem upsert_eraseDups {α : Type} {isSame : α → Bool} {change : α → α} {new : α}
    {make make' : κ → Option α}
    (hmake : ∀ k ∈ keys, ∃ x, make k = some x ∧ (isSame x = true ↔ k = key))
    (hnone : key ∉ keys → make key = none) (hothers : ∀ k ∈ keys, k ≠ key → make' k = make k)
    (hself : make' key = some ((make key).elim new change)) :
    (upsert isSame change new (keys.eraseDups.filterMap make)).2
      = (keys ++ [key]).eraseDups.filterMap make' := by
  have hmake' : ∀ k ∈ keys.eraseDups, ∃ x, make k = some x ∧ (isSame x = true ↔ k = key) :=
    fun k hk => hmake k (List.mem_eraseDups.1 hk)
  rw [upsert_filterMap (Disk.nodup_eraseDups keys) hmake']
  by_cases hmem : key ∈ keys
  · rw [if_pos (List.mem_eraseDups.2 hmem), eraseDups_concat_of_mem hmem]
    apply List.filterMap_congr
    intro k hk
    by_cases hkey : k = key
    · subst hkey
      obtain ⟨x, hx, -⟩ := hmake k hmem
      rw [if_pos rfl, hself, hx]
      rfl
    · rw [if_neg hkey, hothers k (List.mem_eraseDups.1 hk) hkey]
  · have hfront : keys.eraseDups.filterMap make = keys.eraseDups.filterMap make' := by
      apply List.filterMap_congr
      intro k hk
      have hk' := List.mem_eraseDups.1 hk
      exact (hothers k hk' fun heq => hmem (heq ▸ hk')).symm
    have hlast : [key].filterMap make' = [new] := by
      rw [List.filterMap_cons_some hself, hnone hmem]
      rfl
    rw [if_neg (mt List.mem_eraseDups.1 hmem), eraseDups_concat_of_not_mem hmem,
      List.filterMap_append, hfront, hlast]

end

/-! ## Stored lists -/

/-- **A stored list reads as what its posts make up**, and it can be read if there is a post. -/
structure ReadsAs {α π : Type} (make : List π → List α) (read : Except Error (List α))
    (posts : List π) : Prop where
  /-- Whatever is read is what they make up. -/
  eq : ∀ xs, read = .ok xs → xs = make posts
  /-- It is read if there is one. -/
  readable : posts ≠ [] → ∃ xs, read = .ok xs

namespace ReadsAs

variable {α π : Type} {make : List π → List α} {read read' : Except Error (List α)}
variable {posts : List π}

/-- Before any post there is nothing to read. -/
theorem start (hmake : make [] = []) (h : ∀ xs, read = .ok xs → xs = []) :
    ReadsAs make read [] where
  eq xs hxs := (h xs hxs).trans hmake.symm
  readable hne := absurd rfl hne

/-- It stays so as long as the same is read. -/
theorem congr (h : ReadsAs make read posts) (hsame : ∀ xs, read' = .ok xs ↔ read = .ok xs) :
    ReadsAs make read' posts where
  eq xs hxs := h.eq xs ((hsame xs).1 hxs)
  readable hne := by
    obtain ⟨xs, hxs⟩ := h.readable hne
    exact ⟨xs, (hsame xs).2 hxs⟩

/-- It becomes so when the list is stored. -/
theorem stored (h : read = .ok (make posts)) : ReadsAs make read posts where
  eq _ hxs := Except.ok.inj (hxs.symm.trans h)
  readable _ := ⟨_, h⟩

/-- The list that is known before a post is what the posts make up. -/
theorem orEmpty_eq (h : ReadsAs make read posts) (hmake : make [] = []) {xs : List α}
    (hxs : Account.orEmpty read = .ok xs) : xs = make posts := by
  rcases read with e | ys
  · -- There is no document yet, or it cannot be read and the post would not be made.
    have hposts : posts = [] := by
      by_contra hne
      obtain ⟨ys, hys⟩ := h.readable hne
      cases hys
    rw [hposts, hmake]
    cases e <;> cases hxs
    rfl
  · cases hxs
    exact h.eq xs rfl

end ReadsAs

end SpeakerHub
