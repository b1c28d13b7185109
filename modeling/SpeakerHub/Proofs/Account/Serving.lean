import SpeakerHub.Proofs.Account.Answers
import SpeakerHub.Proofs.Account.Changes

/-! # What was stored is served

A request that changes a list answers with the changed entry as a document. Whoever reads the list
next is served just this entry in it, among the other entries as they were.

* **`mergeSort_insert`** — one entry more does not change how the others are sorted.
* **`Account.Replaced`** — a list in which one entry takes the place of the first of its kind.
* **`Account.Served`** — reading a list after it was changed.
* **`what_was_stored_is_served`** — presets and recents are served. -/

namespace SpeakerHub

/-! ## Sorting with one entry more -/

section

variable {α : Type} {le : α → α → Bool} (trans : ∀ a b c, le a b → le b c → le a c)
  (total : ∀ a b, le a b || le b a)
include trans total

/-- An entry in front of the others is sorted behind those that must come first. -/
theorem mergeSort_cons_eq (x : α) (xs : List α) :
    (x :: xs).mergeSort le
      = (xs.mergeSort le).filter (!le x ·) ++ x :: (xs.mergeSort le).filter (le x ·) := by
  obtain ⟨above, below, hcons, hxs, habove⟩ := List.mergeSort_cons trans total x xs
  -- The entry stands before all that may come behind it, and behind all that may not.
  have hsorted := List.pairwise_mergeSort trans total (x :: xs)
  rw [hcons, List.pairwise_append, List.pairwise_cons] at hsorted
  obtain ⟨-, ⟨hbelow, -⟩, -⟩ := hsorted
  have habove' : above.filter (le x ·) = [] := by
    rw [List.filter_eq_nil_iff]
    exact fun y hy => by simpa using habove y hy
  have hbelow' : below.filter (!le x ·) = [] := by
    rw [List.filter_eq_nil_iff]
    exact fun y hy => by simpa using hbelow y hy
  rw [hcons, hxs, List.filter_append, List.filter_append, habove', hbelow',
    List.filter_eq_self.2 habove, List.filter_eq_self.2 hbelow, List.append_nil, List.nil_append]

/-- **One entry more** is put somewhere among the others, which stay as they are sorted. -/
theorem mergeSort_insert (front : List α) (x : α) (back : List α) :
    ∃ above below, (front ++ x :: back).mergeSort le = above ++ x :: below
      ∧ (front ++ back).mergeSort le = above ++ below := by
  induction front with
  | nil =>
    obtain ⟨above, below, hcons, hxs, -⟩ := List.mergeSort_cons trans total x back
    exact ⟨above, below, hcons, hxs⟩
  | cons y front ih =>
    obtain ⟨above, below, hmore, hless⟩ := ih
    rw [List.cons_append, List.cons_append, mergeSort_cons_eq trans total,
      mergeSort_cons_eq trans total, hmore, hless]
    -- The entry stays on its side of the one in front.
    by_cases hyx : le y x
    · refine ⟨above.filter (!le y ·) ++ below.filter (!le y ·) ++ y :: above.filter (le y ·),
        below.filter (le y ·), ?_, ?_⟩ <;> simp [List.filter_append, hyx]
    · refine ⟨above.filter (!le y ·), below.filter (!le y ·)
        ++ y :: (above.filter (le y ·) ++ below.filter (le y ·)), ?_, ?_⟩ <;>
        simp [List.filter_append, hyx]

end

namespace Dialect

/-- What may come first of three comes first. -/
theorem isNoEarlier_trans (q r t : Recent) :
    isNoEarlier q r = true → isNoEarlier r t = true → isNoEarlier q t = true := by
  unfold isNoEarlier
  cases q.playedAt <;> cases r.playedAt <;> cases t.playedAt <;> simp
  omega

/-- One of two may come first. -/
theorem isNoEarlier_total (q r : Recent) : (isNoEarlier q r || isNoEarlier r q) = true := by
  unfold isNoEarlier
  cases q.playedAt <;> cases r.playedAt <;> simp
  omega

end Dialect

namespace Account

/-! ## One entry in place of another -/

/-- **One list is another one with an entry** in place of the first of its kind, or behind all
others if there was none. -/
structure Replaced {α : Type} (IsSame : α → Prop) (before after front : List α) (old? : Option α)
    (entry : α) (back : List α) : Prop where
  /-- The list before. -/
  before_eq : before = front ++ old?.toList ++ back
  /-- The list afterwards. -/
  after_eq : after = front ++ entry :: back
  /-- What stands in front is of another kind. -/
  front_ne : ∀ x ∈ front, ¬IsSame x
  /-- What was there before is of this kind. -/
  old_same : ∀ x ∈ old?, IsSame x
  /-- So is the entry. -/
  entry_same : IsSame entry
  /-- A new entry comes last. -/
  last : old? = none → back = []

/-- **Changing one of a list** puts an entry in place of the first that is the same: that one as it
is changed, or the new one. -/
theorem replaced_upsert_eq {α : Type} {IsSame : α → Prop} (isSame : α → Bool) (change : α → α)
    (new : α) (xs : List α) (hsame : ∀ x, isSame x = true ↔ IsSame x)
    (hchange : ∀ x, IsSame x → IsSame (change x)) (hnew : IsSame new) :
    ∃ front old? back,
      Replaced IsSame xs (upsert isSame change new xs).2 front old?
          (upsert isSame change new xs).1 back
        ∧ (upsert isSame change new xs).1 = old?.elim new change := by
  obtain ⟨front, old?, back, hxs, hfront, hold, hback, hupsert⟩ := upsert_eq isSame change new xs
  have hold' : ∀ x ∈ old?, IsSame x := fun x hx => (hsame x).1 (hold x hx)
  refine ⟨front, old?, back, ⟨hxs, by rw [hupsert], fun x hx => ?_, hold', ?_, hback⟩,
    by rw [hupsert]⟩
  · rw [← hsame, hfront x hx]
    exact Bool.false_ne_true
  · rw [hupsert]
    cases old? with
    | none => exact hnew
    | some x => exact hchange x (hold' x rfl)

/-- An entry takes the place of the first that is the same. -/
theorem replaced_upsert {α : Type} {IsSame : α → Prop} {isSame : α → Bool} {change : α → α}
    {new : α} (hsame : ∀ x, isSame x = true ↔ IsSame x)
    (hchange : ∀ x, IsSame x → IsSame (change x)) (hnew : IsSame new) (xs : List α) :
    ∃ front old? back,
      Replaced IsSame xs (upsert isSame change new xs).2 front old?
        (upsert isSame change new xs).1 back := by
  obtain ⟨front, old?, back, h, -⟩ := replaced_upsert_eq isSame change new xs hsame hchange hnew
  exact ⟨front, old?, back, h⟩

/-- The entry is there afterwards. -/
theorem Replaced.entry_mem {α : Type} {IsSame : α → Prop} {before after front back : List α}
    {old? : Option α} {entry : α} (h : Replaced IsSame before after front old? entry back) :
    entry ∈ after := by
  rw [h.after_eq]
  exact List.mem_append_right front List.mem_cons_self

/-- **Sorted lists with an entry replaced** have the others in the same order. -/
theorem Replaced.mergeSort {α : Type} {IsSame : α → Prop} {before after front back : List α}
    {old? : Option α} {entry : α} (h : Replaced IsSame before after front old? entry back)
    {le : α → α → Bool} (trans : ∀ a b c, le a b → le b c → le a c)
    (total : ∀ a b, le a b || le b a) : ∃ above below above' below',
      before.mergeSort le = above' ++ old?.toList ++ below'
        ∧ after.mergeSort le = above ++ entry :: below ∧ above ++ below = above' ++ below' := by
  obtain ⟨above, below, hafter, hothers⟩ := mergeSort_insert trans total front entry back
  rw [← h.after_eq] at hafter
  have hbefore := h.before_eq
  -- Both lists are the others with one entry more, or the one before is just the others.
  cases old? with
  | none =>
    have hsorted : before.mergeSort le = above ++ below := by
      rw [hbefore, Option.toList_none, List.append_nil, hothers]
    exact ⟨above, below, above, below, by simpa using hsorted, hafter, rfl⟩
  | some old =>
    obtain ⟨above', below', hsorted, hothers'⟩ := mergeSort_insert trans total front old back
    have hlist : before = front ++ old :: back := by simp [hbefore]
    exact ⟨above, below, above', below', by simp [hlist, hsorted], hafter,
      hothers.symm.trans hothers'⟩

/-- A preset that is put behind a button takes the place of the first one there. -/
theorem replaced_withPreset (number : Nat) (request : PresetRequest) (sources : List Source)
    (now : String) (presets : List Preset) :
    let after := withPreset number request sources now presets
    ∃ front old? back,
      Replaced (·.item.id = Nat.repr number) presets after.2 front old? after.1 back := by
  intro after
  refine replaced_upsert (fun p => ?_) (fun p _ => ?_) ?_ presets
  · exact beq_iff_eq
  · rfl
  · rfl

/-- A recent takes the place of the first one that was played from the same place. -/
theorem replaced_withRecent (device : Identifier) (request : RecentRequest)
    (sources : List Source) (seconds : Int) (recents : List Recent) :
    let after := withRecent device request sources seconds recents
    let key := keyOfSource sources request.sourceId
    ∃ front old? back,
      Replaced (fun r => r.item.source = key ∧ r.item.location = request.location) recents after.2
        front old? after.1 back := by
  intro after key
  refine replaced_upsert (fun r => ?_) (fun r h => ?_) ?_ recents
  · rw [Bool.and_eq_true, beq_iff_eq, beq_iff_eq]
  · exact h
  · exact ⟨rfl, rfl⟩

/-! ## Reading after a change -/

/-- **What reading a list gives** after a change that was answered, and what it gave before. -/
structure Served {α : Type} (read : Option String → Disk → Except Error Conditional)
    (name : String) (child : α → Markup.Element Markup.Attributes) (before after : List α)
    (entry : α) (answer : Written) (d d' : Disk) : Prop where
  /-- With the token of the answer nothing has changed. -/
  unchanged : read (some answer.token.text) d' = .ok (.unchanged answer.token)
  /-- With any other the list is given as it is now, under the token of the answer. -/
  fresh : ∀ presented, presented ≠ some answer.token.text → read presented d'
    = .ok (.fresh answer.token (Dialect.document (Dialect.group name (after.map child))))
  /-- Before the change it was given as it was then. -/
  past : ∃ t, ∀ presented, presented ≠ some t.text → read presented d
    = .ok (.fresh t (Dialect.document (Dialect.group name (before.map child))))
  /-- The answer is the entry as a document of its own. -/
  body : answer.body = Dialect.document (child entry)

section

variable {s : Store} {account : Identifier} {resource : Resource} {d d' : Disk}

/-- A list that is given has a token. -/
theorem exists_token_of_orEmpty {α : Type} {p : Path} {ofText? : String → Option (List α)}
    {xs : List α} (h : orEmpty (Store.read p ofText? d) = .ok xs) :
    ∃ t, Store.token p d = .ok t := by
  rw [Store.read_eq_look] at h
  rw [Store.token_eq_look]
  rcases hlook : d.look p with fault | i <;> rw [hlook] at h
  · cases fault with
    | notFound => exact ⟨_, rfl⟩
    | _ => cases h
  · exact ⟨_, rfl⟩

/-- **Saving a list leaves the sources**, so that its entries are shown with the same ones. -/
theorem storedSources_saved {save : Save} (hsaved : s.Change d (some save) d')
    (hlist : save.list? = some (account.text, resource)) (hne : resource ≠ .sources) :
    storedSources s account d' = storedSources s account d := by
  have hshort : (s.accountPath account).IsShort :=
    (Path.isShort_append.1 (Disk.isShort_of_look (hsaved.look_saved hlist))).1
  have hother : (some save).bind Save.list? ≠ some (account.text, .sources) := by
    rw [Option.bind_some, hlist]
    simpa using hne
  exact storedSources_congr (hsaved.look_kept hshort hother)

/-- **A list that was saved** is served as it was saved. -/
theorem served_of_saved {α : Type} {stored : Disk → Except Error (List α)}
    {element : List Source → List α → Markup.Element Markup.Attributes} {save : Save}
    {sources : List Source} {xs ys before after : List α} {name : String}
    {child : α → Markup.Element Markup.Attributes}
    (hsaved : s.Change d (some save) d') (hlist : save.list? = some (account.text, resource))
    (hne : resource ≠ .sources) (hsources : storedSources s account d = .ok sources)
    (ht : ∃ t, s.resourceToken account resource d = .ok t)
    (hxs : stored d = .ok xs) (hys : stored d' = .ok ys)
    (hbefore : element sources xs = Dialect.group name (before.map child))
    (hafter : element sources ys = Dialect.group name (after.map child)) (entry : α) :
    Served (answer s account resource stored element) name child before after entry
      { token := .ofNanoseconds d.now, body := Dialect.document (child entry) } d d' := by
  have htoken := resourceToken_saved hsaved hlist
  have hsources' : storedSources s account d' = .ok sources :=
    (storedSources_saved hsaved hlist hne).trans hsources
  obtain ⟨t, ht⟩ := ht
  refine ⟨answer_eq_unchanged_iff.2 ⟨htoken, rfl⟩, fun presented hp => ?_,
    ⟨t, fun presented hp => ?_⟩, rfl⟩
  · rw [← hafter]
    exact answer_eq_fresh_iff.2 ⟨htoken, hp, ys, sources, hys, hsources', rfl⟩
  · rw [← hbefore]
    exact answer_eq_fresh_iff.2 ⟨ht, hp, xs, sources, hxs, hsources, rfl⟩

end

end Account

/-! ## What was stored -/

/-- **What was stored is served.** After a button was given something to play, the presets are
served under the token of the answer, and the preset in the answer stands among them in place of the
first one behind that button, or as the last one if there was none; all others are served as they
were.

After something was played so are the recents, where the sort has put the recent of the answer
somewhere among the others, whose order it does not change. -/
theorem what_was_stored_is_served (s : Store) (account device body : String) (d d' : Disk)
    (written : Account.Written) :
    (∀ button, (Account.putPreset s account device button body).run d = (.ok written, d') →
      ∃ (id : Identifier) (number : Nat) (sources : List Source) (stored after front : List Preset)
        (old? : Option Preset) (preset : Preset) (back : List Preset),
        id.text = account ∧ Numeral.unsigned? UInt32.size button = some number
        ∧ Account.storedPresets s id d = .ok stored ∧ Account.storedPresets s id d' = .ok after
        ∧ Account.Replaced (·.item.id = Nat.repr number) stored after front old? preset back
        ∧ Account.Served (Account.presets s account) "presets" (Dialect.preset sources)
          stored after preset written d d')
    ∧ ((Account.addRecent s account device body).run d = (.ok written, d') →
      ∃ (id : Identifier) (sources : List Source) (stored after front : List Recent)
        (old? : Option Recent) (recent : Recent) (back above below above' below' : List Recent),
        id.text = account
        ∧ Account.storedRecents s id d = .ok stored ∧ Account.storedRecents s id d' = .ok after
        ∧ Account.Replaced (fun r => r.item.source = recent.item.source
          ∧ r.item.location = recent.item.location) stored after front old? recent back
        ∧ stored.mergeSort Dialect.isNoEarlier = above' ++ old?.toList ++ below'
        ∧ after.mergeSort Dialect.isNoEarlier = above ++ recent :: below
        ∧ above ++ below = above' ++ below'
        ∧ Account.Served (Account.recents s account) "recents" (Dialect.recent sources)
          (above' ++ old?.toList ++ below') (above ++ recent :: below) recent written d d') := by
  constructor
  · intro button hrun
    have hcases := Account.putsPreset s account device button body d
    rw [hrun] at hcases
    cases hcases with
    | @stored number request _ id sources stored _ _ hnumber _ _ haccount hsources hstored h =>
      obtain rfl := Identifier.ofText_eq_ok_iff.1 haccount
      cases h with
      | done hsaved =>
        obtain ⟨front, old?, back, hreplaced⟩ := Account.replaced_withPreset number request sources
          (Timestamp.ofMilliseconds d.clock) stored
        have hafter : Account.storedPresets s id d' = .ok _ :=
          congrArg Account.orEmpty hsaved.presets_saved
        refine ⟨id, number, sources, stored, _, front, old?, _, back, rfl, hnumber, hstored, hafter,
          hreplaced, ?_⟩
        rw [Account.presets_eq_answer]
        exact Account.served_of_saved hsaved rfl nofun hsources
          (Account.exists_token_of_orEmpty hstored) hstored hafter rfl rfl _
  · intro hrun
    have hcases := Account.addsRecent s account device body d
    rw [hrun] at hcases
    cases hcases with
    | @stored request deviceId id sources stored _ _ _ _ haccount hsources hstored h =>
      obtain rfl := Identifier.ofText_eq_ok_iff.1 haccount
      cases h with
      | done hsaved =>
        obtain ⟨front, old?, back, hreplaced⟩ := Account.replaced_withRecent deviceId request
          sources ((Timestamp.seconds? request.lastPlayedAt.toList).getD (d.clock / 1000)) stored
        obtain ⟨above, below, above', below', hbefore, hafter, hothers⟩ :=
          hreplaced.mergeSort Dialect.isNoEarlier_trans Dialect.isNoEarlier_total
        have hstored' : Account.storedRecents s id d' = .ok _ :=
          congrArg Account.orEmpty hsaved.recents_saved
        refine ⟨id, sources, stored, _, front, old?, _, back, above, below, above', below', rfl,
          hstored, hstored', ?_, hbefore, hafter, hothers, ?_⟩
        · obtain ⟨hsource, hlocation⟩ := hreplaced.entry_same
          rw [hsource, hlocation]
          exact hreplaced
        · rw [Account.recents_eq_answer]
          exact Account.served_of_saved hsaved rfl nofun hsources
            (Account.exists_token_of_orEmpty hstored) hstored hstored'
            (by rw [Dialect.recents, hbefore]) (by rw [Dialect.recents, hafter]) _

/-- The first preset and the first recent of an account are served under the tokens that they were
answered with. -/
theorem first_entries_are_served :
    let s : Store := { directory := Path.ofTexts ["data"] }
    (∃ written d', (Account.putPreset s "A" "D" "3" "<preset/>").run { clock := 1000 }
        = (.ok written, d')
      ∧ Account.presets s "A" (some written.token.text) d' = .ok (.unchanged written.token))
    ∧ ∃ written d', (Account.addRecent s "A" "D" "<recent/>").run { clock := 1000 }
        = (.ok written, d')
      ∧ Account.recents s "A" (some written.token.text) d' = .ok (.unchanged written.token) := by
  intro s
  have hput : ((Account.putPreset s "A" "D" "3" "<preset/>").run { clock := 1000 }).1.isOk := by
    decide
  have hadd : ((Account.addRecent s "A" "D" "<recent/>").run { clock := 1000 }).1.isOk := by
    decide
  obtain ⟨w, d', hput⟩ := Action.exists_of_isOk hput
  obtain ⟨w', d'', hadd⟩ := Action.exists_of_isOk hadd
  obtain ⟨_, _, _, _, _, _, _, _, _, -, -, -, -, -, hpresets⟩ :=
    (what_was_stored_is_served s "A" "D" "<preset/>" _ d' w).1 "3" hput
  obtain ⟨_, _, _, _, _, _, _, _, _, _, _, _, -, -, -, -, -, -, -, hrecents⟩ :=
    (what_was_stored_is_served s "A" "D" "<recent/>" _ d'' w').2 hadd
  exact ⟨⟨w, d', hput, hpresets.unchanged⟩, ⟨w', d'', hadd, hrecents.unchanged⟩⟩

end SpeakerHub
