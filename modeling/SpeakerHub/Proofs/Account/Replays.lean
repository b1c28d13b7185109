import SpeakerHub.Proofs.Account.Plays
import SpeakerHub.Proofs.Account.PlayTimes

/-! # The time of an item

What was played once is played again, by any speaker, and what a speaker says of it may come late.
The entry of the item gets the time of the request that comes last, whether that is later than the
one it has or earlier. So requests that come in the order of their times move an entry forward, and
others move it back.

* **`Origin.playedAt`** — the time that some recents say for an item;
  **`Play.playedAt_replay_self`**, **`Play.playedAt_replay_of_ne`** — after one play more.
* **`Store.HasTime`** — the time that is stored for an item.
* **`Play.Made.hasTime`**, **`Played.hasTime`** — after a play, and after a run of plays.
* **`replays_take_the_last_time`** — what is stored is what was said last;
  **`late_replay_moves_back`** — an entry that is moved back. -/

namespace SpeakerHub

/-! ## Changing one of a list -/

section

variable {α : Type} {isSame : α → Bool} {change : α → α} {new : α}

/-- What is changed, or new, is found. -/
theorem find?_upsert_self (hchange : ∀ x, isSame x = true → isSame (change x) = true)
    (hnew : isSame new = true) (xs : List α) :
    (upsert isSame change new xs).2.find? isSame = some (upsert isSame change new xs).1 := by
  induction xs with
  | nil => exact List.find?_cons_of_pos hnew
  | cons x xs ih =>
    rw [upsert]
    split
    · next hsame => exact List.find?_cons_of_pos (hchange x hsame)
    · next hother =>
      rw [List.find?_cons_of_neg hother]
      exact ih

/-- What is something else is found as before. -/
theorem find?_upsert_of_other {isOther : α → Bool}
    (hchange : ∀ x, isSame x = true → isOther x = false ∧ isOther (change x) = false)
    (hnew : isOther new = false) (xs : List α) :
    (upsert isSame change new xs).2.find? isOther = xs.find? isOther := by
  induction xs with
  | nil => exact List.find?_cons_of_neg (by simp [hnew])
  | cons x xs ih =>
    rw [upsert]
    split
    · next hsame =>
      obtain ⟨hx, hchanged⟩ := hchange x hsame
      rw [List.find?_cons_of_neg (by simp [hchanged]), List.find?_cons_of_neg (by simp [hx])]
    · rw [List.find?_cons, List.find?_cons, ← ih]

end

/-! ## The time of an item -/

/-- **The time of an item** in some recents: that of its first entry, if it is a number. -/
def Origin.playedAt (key : Origin) (recents : List Recent) : Option Int :=
  (recents.find? (·.origin == key)).bind Recent.playedAt

namespace Play

variable {p : Play} {recents : List Recent} {id : Nat} {key : Origin}

/-- An entry is that of the item that is played if it has its origin. -/
theorem isSame_eq (p : Play) : p.isSame = (·.origin == p.origin) := by
  funext r
  rw [Bool.eq_iff_iff, isSame_iff, beq_iff_eq]

/-- **A play says the time of its item.** -/
theorem playedAt_replay_self (p : Play) (id : Nat) (recents : List Recent) :
    p.origin.playedAt (upsert p.isSame p.renew (recent id p) recents).2
      = Numeral.signed? (Int.repr p.seconds) := by
  have hfound : (upsert p.isSame p.renew (recent id p) recents).2.find? p.isSame
      = some (upsert p.isSame p.renew (recent id p) recents).1 := by
    refine find?_upsert_self (fun r hr => ?_) (isSame_iff.2 rfl) recents
    exact isSame_iff.2 (isSame_iff.1 hr : r.origin = p.origin)
  rw [isSame_eq] at hfound ⊢
  rw [Origin.playedAt, hfound, Option.bind_some]
  -- The entry as it was, or a new one, gets the time of the play.
  obtain ⟨_, old?, _, -, -, -, -, hupsert⟩ :=
    upsert_eq (·.origin == p.origin) p.renew (recent id p) recents
  rw [hupsert]
  cases old? <;> rfl

/-- It leaves the times of other items. -/
theorem playedAt_replay_of_ne (hne : key ≠ p.origin) :
    key.playedAt (upsert p.isSame p.renew (recent id p) recents).2 = key.playedAt recents := by
  have hother {r : Recent} (hr : r.origin = p.origin) : (r.origin == key) = false :=
    beq_eq_false_iff_ne.2 fun heq => hne (heq.symm.trans hr)
  have hfound : (upsert p.isSame p.renew (recent id p) recents).2.find? (·.origin == key)
      = recents.find? (·.origin == key) := by
    refine find?_upsert_of_other (fun r hr => ?_) ?_ recents
    · have hold := isSame_iff.1 hr
      have hrenewed : (p.renew r).origin = p.origin := hold
      exact ⟨hother hold, hother hrenewed⟩
    · have hnew : (recent id p).origin = p.origin := rfl
      exact hother hnew
  rw [Origin.playedAt, Origin.playedAt, hfound]

/-- **A play says a second**, by a timestamp. -/
def Says (p : Play) (second : Int) : Prop :=
  Timestamp.seconds? p.request.lastPlayedAt.toList = some second

end Play

/-- **The time that is stored for an item** of an account, if there are recents at all. -/
def Store.HasTime (s : Store) (a : Identifier) (key : Origin) (d : Disk) (time? : Option Int) :
    Prop :=
  ∃ recents, s.recents a d = .ok recents ∧ key.playedAt recents = time?

variable {s : Store} {a : Identifier} {key : Origin} {d d' : Disk} {time? : Option Int}

/-- There is one time only. -/
theorem Store.HasTime.unique {other? : Option Int} (h : s.HasTime a key d time?)
    (h' : s.HasTime a key d other?) : time? = other? := by
  obtain ⟨recents, hrecents, rfl⟩ := h
  obtain ⟨recents', hrecents', rfl⟩ := h'
  rw [Except.ok.inj (hrecents.symm.trans hrecents')]

/-- The second that is stored is the later of two exactly if the other one is not later. -/
theorem Store.HasTime.later_iff {first second : Int} (h : s.HasTime a key d (some second)) :
    s.HasTime a key d (some (max first second)) ↔ first ≤ second := by
  constructor
  · intro hmax
    have heq := Option.some.inj (hmax.unique h)
    omega
  · intro hle
    rwa [max_eq_right hle]

/-- Where the recents are the same, so are the times. -/
theorem Store.SameRecents.hasTime (hsame : s.SameRecents d d') (h : s.HasTime a key d time?) :
    s.HasTime a key d' time? := by
  obtain ⟨recents, hrecents, htime⟩ := h
  exact ⟨recents, (hsame a recents).2 hrecents, htime⟩

namespace Play.Made

variable {p : Play} (h : p.Made s d d')
include h

/-- A play that says a second has it. -/
theorem seconds_eq {second : Int} (htold : p.Says second) : p.seconds = second := by
  obtain ⟨-, -, -, -, -, -, hseconds, -⟩ := h
  rw [hseconds, htold, Option.getD_some]

/-- **A play that is recorded** gives its item its time. -/
theorem hasTime : s.HasTime p.account p.origin d' (Numeral.signed? (Int.repr p.seconds)) := by
  obtain ⟨stored, -, hchange⟩ := h.saved
  exact ⟨_, hchange.recents_saved, p.playedAt_replay_self _ stored⟩

/-- A second that is said is stored. -/
theorem hasTime_said {second : Int} (htold : p.Says second) :
    s.HasTime p.account p.origin d' (some second) := by
  have htime := h.hasTime
  rwa [h.seconds_eq htold, Timestamp.signed?_repr_of_seconds? htold] at htime

/-- It leaves the times of other items, and of other accounts. -/
theorem hasTime_of_other (hne : p.account ≠ a ∨ p.origin ≠ key)
    (hbefore : s.HasTime a key d time?) : s.HasTime a key d' time? := by
  obtain ⟨recents, hrecents, rfl⟩ := hbefore
  obtain ⟨stored, hstored, hchange⟩ := h.saved
  by_cases haccount : p.account = a
  · subst haccount
    obtain rfl : recents = stored := by
      rw [Account.storedRecents, hrecents] at hstored
      exact Except.ok.inj hstored
    exact ⟨_, hchange.recents_saved,
      playedAt_replay_of_ne (hne.resolve_left (not_not_intro rfl)).symm⟩
  · have hother : (some (Save.recents p.account.text (upsert p.isSame p.renew
        (recent (Account.nextRecentId stored) p) stored).2)).bind Save.list?
          ≠ some (a.text, .recents) := fun heq =>
      haccount (Key.text_inj.1 (congrArg Prod.fst (Option.some_inj.1 heq)))
    exact ⟨recents, (hchange.recents_iff hother recents).2 hrecents, rfl⟩

end Play.Made

/-! ## Runs of plays -/

namespace Played

variable {plays : List Play} (h : Played s d plays d')
include h

/-- All plays of a run are recorded. -/
theorem exists_made {p : Play} (hp : p ∈ plays) : ∃ d₁ d₂, p.Made s d₁ d₂ := by
  induction h with
  | start => cases hp
  | other _ _ ih => exact ih hp
  | play before clock hmade ih =>
    rcases List.mem_append.1 hp with hp | hp
    · exact ih hp
    · obtain rfl := List.mem_singleton.1 hp
      exact ⟨_, _, hmade⟩

/-- **The time of an item after a run** is that of its last play, or the one that it had if it was
not played. -/
theorem hasTime
    (hbefore : Play.last? (plays.filter (·.account = a)) key = none → s.HasTime a key d time?) :
    s.HasTime a key d' ((Play.last? (plays.filter (·.account = a)) key).elim time?
      fun p => Numeral.signed? (Int.repr p.seconds)) := by
  induction h with
  | start => exact hbefore rfl
  | other _ hsame ih => exact hsame.hasTime (ih hbefore)
  | @play plays p d₁ d₂ before clock hmade ih =>
    -- The last play decides, unless it is of another account or another item.
    rw [List.filter_append] at hbefore ⊢
    by_cases haccount : p.account = a
    · rw [List.filter_cons_of_pos (by simpa using haccount), List.filter_nil,
        Play.last_concat] at hbefore ⊢
      by_cases hkey : p.origin = key
      · rw [if_pos hkey, Option.elim_some]
        subst haccount hkey
        exact hmade.hasTime
      · rw [if_neg hkey] at hbefore ⊢
        exact hmade.hasTime_of_other (.inr hkey) (ih hbefore)
    · rw [List.filter_cons_of_neg (by simpa using haccount), List.filter_nil,
        List.append_nil] at hbefore ⊢
      exact hmade.hasTime_of_other (.inl haccount) (ih hbefore)

/-- The last play of an item gives it its time. -/
theorem hasTime_last {p : Play}
    (hlast : Play.last? (plays.filter (·.account = a)) key = some p) :
    s.HasTime a key d' (Numeral.signed? (Int.repr p.seconds)) := by
  have htime : s.HasTime a key d' ((Play.last? (plays.filter (·.account = a)) key).elim none
      fun p => Numeral.signed? (Int.repr p.seconds)) :=
    h.hasTime fun hnone => nomatch hlast.symm.trans hnone
  rwa [hlast, Option.elim_some] at htime

/-- What it says is stored. -/
theorem hasTime_said {p : Play} {second : Int}
    (hlast : Play.last? (plays.filter (·.account = a)) key = some p) (htold : p.Says second) :
    s.HasTime a key d' (some second) := by
  have hmem : p ∈ plays :=
    List.mem_of_mem_filter (List.mem_reverse.1 (List.mem_of_find?_eq_some hlast))
  obtain ⟨d₁, d₂, hmade⟩ := h.exists_made hmem
  have htime := h.hasTime_last hlast
  rwa [hmade.seconds_eq htold, Timestamp.signed?_repr_of_seconds? htold] at htime

/-- An item that was not played keeps the time that it had. -/
theorem hasTime_kept (hnone : Play.last? (plays.filter (·.account = a)) key = none)
    (hbefore : s.HasTime a key d time?) : s.HasTime a key d' time? := by
  have htime := h.hasTime fun _ => hbefore
  rwa [hnone, Option.elim_none] at htime

end Played

/-! ## Plays that can be recorded -/

namespace Account

/-- **Plays of an account can be recorded**: all that they need can be read, and nothing is in the
way of its recents. -/
structure IsReady (s : Store) (a : Identifier) (sources : List Source) (d : Disk) : Prop where
  /-- The sources that are configured. -/
  sources_eq : storedSources s a d = .ok sources
  /-- The recents before. -/
  stored : ∃ stored, storedRecents s a d = .ok stored
  /-- The recents can be saved. -/
  canWrite : s.CanWrite (.list a .recents) d

/-- **A play is recorded** then, and so is the next one. -/
theorem IsReady.exists_made {sources : List Source} (h : IsReady s a sources d)
    (device : Identifier) {body : String} {request : RecentRequest}
    (hrequest : RecentRequest.ofText body = .ok request) :
    ∃ (p : Play) (w : Written) (d' : Disk), p.account = a ∧ p.request = request
      ∧ p.origin = ⟨keyOfSource sources request.sourceId, request.location⟩
      ∧ (addRecent s a.text device.text body).run d = (.ok w, d')
      ∧ p.Made s d d' ∧ IsReady s a sources d' := by
  obtain ⟨hsources, ⟨stored, hstored⟩, hcan⟩ := h
  obtain ⟨w, d', hrun⟩ := (exists_run_addRecent_iff hrequest).2
    ⟨a, device, sources, stored, rfl, rfl, hsources, hstored, hcan⟩
  let p : Play := {
    account := a
    device
    request
    source := keyOfSource sources request.sourceId
    seconds := (Timestamp.seconds? request.lastPlayedAt.toList).getD (d.clock / 1000) }
  have hmade : p.Made s d d' := ⟨body, sources, w, hrequest, hsources, rfl, rfl, hrun⟩
  refine ⟨p, w, d', rfl, rfl, rfl, hrun, hmade, ?_⟩
  -- Only the recents are saved, and what could be saved once can be saved again.
  obtain ⟨before, -, hchange⟩ := hmade.saved
  have hafter := hchange.recents_saved
  have hshort := hcan.isShort_path
  rw [Key.path_list, Store.resourcePath, Path.isShort_append] at hshort
  have hkept : storedSources s a d' = storedSources s a d :=
    storedSources_congr (hchange.look_kept hshort.1 (by simp [Save.list?]))
  refine ⟨hkept.trans hsources, ⟨_, congrArg orEmpty hafter⟩, ?_⟩
  cases hchange with
  | saved hkey hwrites => exact (hwrites.canWrite_iff _).2 hcan

end Account

/-- **What is stored for an item is the time that was said last.** After a run of plays, an item has
the time of its last play, in its account, and one that was not played has the time that it had.

So a play that says a second by a timestamp leaves this second, whatever was stored before: the
later of both only if it says no earlier one. Of two plays of one item, by any devices, the second
is the one that counts, so that their order matters unless they say the same second. -/
theorem replays_take_the_last_time (s : Store) :
    (∀ (d d' : Disk) (plays : List Play), Played s d plays d' → ∀ (a : Identifier) (key : Origin),
      let last? := Play.last? (plays.filter (·.account = a)) key
      (last? = none → ∀ time?, s.HasTime a key d time? → s.HasTime a key d' time?)
      ∧ ∀ p, last? = some p → s.HasTime a key d' (Numeral.signed? (Int.repr p.seconds))
        ∧ ∀ second, p.Says second → s.HasTime a key d' (some second))
    ∧ (∀ (d d' : Disk) (p : Play) (second : Int), p.Made s d d' → p.Says second →
      s.HasTime p.account p.origin d' (some second)
      ∧ ∀ before, s.HasTime p.account p.origin d (some before) →
        (s.HasTime p.account p.origin d' (some (max before second)) ↔ before ≤ second))
    ∧ ∀ (d d' d'' : Disk) (clock : Int) (p q : Play) (first second : Int),
      p.Made s d d' → q.Made s (d'.atTime clock) d'' → q.account = p.account →
      q.origin = p.origin → p.Says first → q.Says second →
        s.HasTime p.account p.origin d'' (some second)
        ∧ (s.HasTime p.account p.origin d'' (some (max first second)) ↔ first ≤ second) := by
  refine ⟨fun d d' plays h a key => ⟨fun hnone time? hbefore => h.hasTime_kept hnone hbefore,
    fun p hlast => ⟨h.hasTime_last hlast, fun second htold => h.hasTime_said hlast htold⟩⟩, ?_, ?_⟩
  · intro d d' p second hmade htold
    have htime := hmade.hasTime_said htold
    exact ⟨htime, fun before _ => htime.later_iff⟩
  · intro d d' d'' clock p q first second _ hmade haccount hkey _ htold
    have htime := hmade.hasTime_said htold
    rw [haccount, hkey] at htime
    exact ⟨htime, htime.later_iff⟩

/-- Something is played on an empty disk, and then again, by another device. -/
theorem Account.exists_two_plays {body body' text text' : String} {first second : Int}
    (hbody : RecentRequest.ofText body
      = .ok { lastPlayedAt := text, sourceId := "", name := "", location := "", kind := "" })
    (hbody' : RecentRequest.ofText body'
      = .ok { lastPlayedAt := text', sourceId := "", name := "", location := "", kind := "" })
    (hfirst : Timestamp.seconds? text.toList = some first)
    (hsecond : Timestamp.seconds? text'.toList = some second) :
    let s : Store := { directory := Path.ofTexts ["data"] }
    ∃ (p q : Play) (w w' : Written) (d d' : Disk), p.Says first ∧ q.Says second
      ∧ q.account = p.account ∧ q.origin = p.origin
      ∧ (addRecent s "A" "D" body).run { clock := 1000 } = (.ok w, d)
      ∧ (addRecent s "A" "E" body').run d = (.ok w', d')
      ∧ p.Made s { clock := 1000 } d ∧ q.Made s d d' := by
  intro s
  let a : Identifier := { text := "A", valid := by decide }
  have hready : IsReady s a [] { clock := 1000 } := by
    refine ⟨by decide, ⟨[], by decide⟩, ?_⟩
    have hwrites := Save.writes_of_key (Save.key_of_list
      (rfl : (Save.recents a.text []).list? = some (a.text, .recents))) s { clock := 1000 }
    exact hwrites.eq_ok_iff.1 (by decide)
  obtain ⟨p, w, d, haccount, hrequest, hkey, hrun, hmade, hready'⟩ :=
    hready.exists_made { text := "D", valid := by decide } hbody
  obtain ⟨q, w', d', haccount', hrequest', hkey', hrun', hmade', -⟩ :=
    hready'.exists_made { text := "E", valid := by decide } hbody'
  have htold : p.Says first := by rwa [Play.Says, hrequest]
  have htold' : q.Says second := by rwa [Play.Says, hrequest']
  exact ⟨p, q, w, w', d, d', htold, htold', haccount'.trans haccount.symm, hkey'.trans hkey.symm,
    hrun, hrun', hmade, hmade'⟩

/-- A play of the next second moves the entry of its item forward. -/
theorem replay_moves_forward :
    let s : Store := { directory := Path.ofTexts ["data"] }
    ∃ a key w w' d d', (Account.addRecent s "A" "D"
        "<r><lastplayedat>1970-01-01T00:00:01Z</lastplayedat></r>").run { clock := 1000 }
        = (.ok w, d)
      ∧ s.HasTime a key d (some 1)
      ∧ (Account.addRecent s "A" "E"
        "<r><lastplayedat>1970-01-01T00:00:02Z</lastplayedat></r>").run d = (.ok w', d')
      ∧ s.HasTime a key d' (some 2) := by
  intro s
  have hbody : RecentRequest.ofText "<r><lastplayedat>1970-01-01T00:00:01Z</lastplayedat></r>"
      = .ok { lastPlayedAt := "1970-01-01T00:00:01Z", sourceId := "", name := "", location := "",
              kind := "" } := rfl
  have hbody' : RecentRequest.ofText "<r><lastplayedat>1970-01-01T00:00:02Z</lastplayedat></r>"
      = .ok { lastPlayedAt := "1970-01-01T00:00:02Z", sourceId := "", name := "", location := "",
              kind := "" } := rfl
  have htime : Timestamp.seconds? "1970-01-01T00:00:01Z".toList = some 1 := by decide
  have htime' : Timestamp.seconds? "1970-01-01T00:00:02Z".toList = some 2 := by decide
  obtain ⟨p, q, w, w', d, d', htold, htold', haccount, hkey, hrun, hrun', hmade, hmade'⟩ :=
    Account.exists_two_plays hbody hbody' htime htime'
  obtain ⟨-, hone, htwo⟩ := replays_take_the_last_time s
  obtain ⟨hbefore, -⟩ := hone _ d p 1 hmade htold
  obtain ⟨-, hlater⟩ := htwo _ d d' d.clock p q 1 2 hmade hmade' haccount hkey htold htold'
  exact ⟨p.account, p.origin, w, w', d, d', hrun, hbefore, hrun', hlater.2 (by decide)⟩

/-- **A late replay moves its entry back**: a request with an earlier time that comes last takes the
place of the later one. -/
theorem late_replay_moves_back :
    let s : Store := { directory := Path.ofTexts ["data"] }
    ∃ a key w w' d d', (Account.addRecent s "A" "D"
        "<r><lastplayedat>1970-01-01T00:00:02Z</lastplayedat></r>").run { clock := 1000 }
        = (.ok w, d)
      ∧ s.HasTime a key d (some 2)
      ∧ (Account.addRecent s "A" "E"
        "<r><lastplayedat>1970-01-01T00:00:01Z</lastplayedat></r>").run d = (.ok w', d')
      ∧ s.HasTime a key d' (some 1) := by
  intro s
  have hbody : RecentRequest.ofText "<r><lastplayedat>1970-01-01T00:00:02Z</lastplayedat></r>"
      = .ok { lastPlayedAt := "1970-01-01T00:00:02Z", sourceId := "", name := "", location := "",
              kind := "" } := rfl
  have hbody' : RecentRequest.ofText "<r><lastplayedat>1970-01-01T00:00:01Z</lastplayedat></r>"
      = .ok { lastPlayedAt := "1970-01-01T00:00:01Z", sourceId := "", name := "", location := "",
              kind := "" } := rfl
  have htime : Timestamp.seconds? "1970-01-01T00:00:02Z".toList = some 2 := by decide
  have htime' : Timestamp.seconds? "1970-01-01T00:00:01Z".toList = some 1 := by decide
  obtain ⟨p, q, w, w', d, d', htold, htold', haccount, hkey, hrun, hrun', hmade, hmade'⟩ :=
    Account.exists_two_plays hbody hbody' htime htime'
  have hbefore := hmade.hasTime_said htold
  have hafter := hmade'.hasTime_said htold'
  rw [haccount, hkey] at hafter
  exact ⟨p.account, p.origin, w, w', d, d', hrun, hbefore, hrun', hafter⟩

end SpeakerHub
