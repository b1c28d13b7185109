import SpeakerHub.Proofs.Account.PlayRecords
import SpeakerHub.Proofs.Calendar.Timestamps
import SpeakerHub.Proofs.Store.Obstacles

/-! # Times of plays

The time at which something was played comes as a timestamp in any zone, is stored as a second and
is shown as a timestamp in the zone at zero. Whether a play can be recorded has nothing to do with
its time; and a time that was shown is stored, when it comes back, as the second that it was shown
for, so that the entry stays in its place.

* **`Account.CanRecord`**, **`exists_run_addRecent_iff`** — when a play is recorded.
* **`Account.SortsAlike`**, **`mergeSort_alike`** — what is sorted alike stays in its place.
* **`Account.KeepsTime`** — what becomes of a time.
* **`play_times_survive`** — every play keeps its time. -/

namespace SpeakerHub

open Markup

namespace Account

/-! ## When a play is recorded -/

/-- **Plays can be recorded** for an account and a device: the account can be read, and nothing is
in the way of its recents. -/
def CanRecord (s : Store) (account device : String) (d : Disk) : Prop :=
  ∃ (a id : Identifier) (sources : List Source) (stored : List Recent),
    a.text = account ∧ id.text = device
    ∧ storedSources s a d = .ok sources ∧ storedRecents s a d = .ok stored
    ∧ s.CanWrite (.list a .recents) d

variable {s : Store} {account device body : String} {d : Disk} {request : RecentRequest}

/-- A play is recorded if everything can be read and the list can be saved. -/
theorem run_addRecent {a id : Identifier} {sources : List Source} {stored : List Recent}
    (hrequest : RecentRequest.ofText body = .ok request)
    (hsources : storedSources s a d = .ok sources) (hstored : storedRecents s a d = .ok stored) :
    let seconds := (Timestamp.seconds? request.lastPlayedAt.toList).getD (d.clock / 1000)
    let after := withRecent id request sources seconds stored
    let save : Save := .recents a.text after.2
    ((save.run s).run d).1 = .ok () →
      (addRecent s a.text id.text body).run d = (.ok
        { token := .ofNanoseconds d.now
          body := Dialect.document (Dialect.recent sources after.1) }, ((save.run s).run d).2) := by
  intro seconds after save hsaved
  have hsave : s.saveRecents a after.2 = save.run s := by
    rw [Save.run, ofText_text]
    rfl
  have htoken := resourceToken_saved (Save.change_of_ok hsaved)
    (rfl : save.list? = some (a.text, .recents))
  rw [addRecent]
  simp only [hrequest, ofText_text, Action.ok_bind]
  rw [Action.run_look_bind_ok hsources, Action.run_get_bind, Action.run_look_bind_ok hstored, hsave,
    Action.run_bind_ok (Prod.ext hsaved rfl), Action.run_look_bind_ok htoken]
  rfl

/-- **A play that is understood is recorded** exactly if it can be, whatever it says. -/
theorem exists_run_addRecent_iff (hrequest : RecentRequest.ofText body = .ok request) :
    (∃ w d', (addRecent s account device body).run d = (.ok w, d'))
      ↔ CanRecord s account device d := by
  constructor
  · rintro ⟨w, d', hrun⟩
    have hcases := addsRecent s account device body d
    rw [hrun] at hcases
    cases hcases with
    | @stored _ id a sources stored _ _ _ hdevice haccount hsources hstored h =>
      obtain rfl := Identifier.ofText_eq_ok_iff.1 haccount
      obtain rfl := Identifier.ofText_eq_ok_iff.1 hdevice
      cases h with
      | done hsaved =>
        refine ⟨a, id, sources, stored, rfl, rfl, hsources, hstored, ?_⟩
        cases hsaved with
        | saved hkey hwrites =>
          obtain rfl := (Save.list?_eq_some_iff hkey).1 rfl
          exact hwrites.eq_ok_iff.1 rfl
  · rintro ⟨a, id, sources, stored, rfl, rfl, hsources, hstored, hcan⟩
    -- What is saved does not matter for whether it can be written.
    have hsaved (recents : List Recent) : (((Save.recents a.text recents).run s).run d).1 = .ok () :=
      (Save.writes_of_key (Save.key_of_list rfl) s d).eq_ok_iff.2 hcan
    exact ⟨_, _, run_addRecent hrequest hsources hstored (hsaved _)⟩

/-! ## Places -/

section

variable {α : Type} {le : α → α → Bool} {x y : α}

/-- Two things are sorted alike: each comes in front of the same others, and behind the same. -/
def SortsAlike (le : α → α → Bool) (x y : α) : Prop :=
  (∀ z, le x z = le y z) ∧ ∀ z, le z x = le z y

/-- Lists of things that are pairwise sorted alike are sorted at once, as pairs. -/
theorem exists_sorted_pairs {pairs : List (α × α)} (h : ∀ p ∈ pairs, SortsAlike le p.1 p.2) :
    ∃ order : List (α × α), order.Perm pairs
      ∧ order.map Prod.fst = (pairs.map Prod.fst).mergeSort le
      ∧ order.map Prod.snd = (pairs.map Prod.snd).mergeSort le := by
  refine ⟨pairs.mergeSort fun p q => le p.1 q.1, List.mergeSort_perm _ _, ?_, ?_⟩
  · exact List.map_mergeSort fun _ _ _ _ => rfl
  · exact List.map_mergeSort fun p hp q hq => ((h p hp).1 q.1).trans ((h q hq).2 p.2)

/-- **What is sorted alike stays in its place** if one is put for the other. -/
theorem mergeSort_alike (h : SortsAlike le x y) (front back : List α) : ∃ above below,
    (front ++ x :: back).mergeSort le = above ++ x :: below
      ∧ (front ++ y :: back).mergeSort le = above ++ y :: below := by
  let double (z : α) : α × α := (z, z)
  let pairs : List (α × α) := front.map double ++ (x, y) :: back.map double
  have hdouble (zs : List α) : ∀ p ∈ zs.map double, p.1 = p.2 := by
    intro p hp
    obtain ⟨z, -, rfl⟩ := List.mem_map.1 hp
    rfl
  have halike : ∀ p ∈ pairs, SortsAlike le p.1 p.2 := by
    intro p hp
    have hcases : p ∈ (front ++ back).map double ∨ p = (x, y) := by
      simp only [pairs, List.mem_append, List.mem_cons, List.map_append] at hp ⊢
      tauto
    rcases hcases with hp | rfl
    · rw [SortsAlike, hdouble _ p hp]
      exact ⟨fun _ => rfl, fun _ => rfl⟩
    · exact h
  obtain ⟨order, hperm, hfirst, hsecond⟩ := exists_sorted_pairs halike
  have hfst : pairs.map Prod.fst = front ++ x :: back := by
    simp [pairs, double, Function.comp_def]
  have hsnd : pairs.map Prod.snd = front ++ y :: back := by
    simp [pairs, double, Function.comp_def]
  rw [hfst] at hfirst
  rw [hsnd] at hsecond
  obtain ⟨above, below, rfl⟩ :=
    List.append_of_mem (hperm.mem_iff.2 (by simp [pairs]) : (x, y) ∈ order)
  -- All other pairs are of one thing with itself, so that both lists have the same others.
  have hothers : (above ++ below).Perm ((front ++ back).map double) := by
    rw [List.map_append]
    exact (List.perm_middle.symm.trans (hperm.trans List.perm_middle)).cons_inv
  have hsame : ∀ p ∈ above ++ below, p.1 = p.2 := fun p hp => hdouble _ p (hothers.mem_iff.1 hp)
  have habove : above.map Prod.snd = above.map Prod.fst :=
    List.map_congr_left fun p hp => (hsame p (List.mem_append_left _ hp)).symm
  have hbelow : below.map Prod.snd = below.map Prod.fst :=
    List.map_congr_left fun p hp => (hsame p (List.mem_append_right _ hp)).symm
  refine ⟨above.map Prod.fst, below.map Prod.fst, ?_, ?_⟩
  · rw [← hfirst, List.map_append, List.map_cons]
  · rw [← hsecond, List.map_append, List.map_cons, habove, hbelow]

end

/-- **An entry with the same time is shown in the same place.** -/
theorem recents_alike {x y : Recent} (h : x.playedAt = y.playedAt) (sources : List Source)
    (front back : List Recent) : ∃ above below,
      (Dialect.recents sources (front ++ x :: back)).children
          = above ++ (Dialect.recent sources x).toNode :: below
        ∧ (Dialect.recents sources (front ++ y :: back)).children
          = above ++ (Dialect.recent sources y).toNode :: below := by
  have halike : SortsAlike Dialect.isNoEarlier x y := by
    constructor <;> intro z <;> rw [Dialect.isNoEarlier, Dialect.isNoEarlier, h]
  obtain ⟨above, below, hbefore, hafter⟩ := mergeSort_alike halike front back
  let shown (r : Recent) : Node Attributes := (Dialect.recent sources r).toNode
  have hchildren (rs : List Recent) : (Dialect.recents sources rs).children
      = (rs.mergeSort Dialect.isNoEarlier).map shown := List.map_map
  refine ⟨above.map shown, below.map shown, ?_, ?_⟩
  · rw [hchildren, hbefore, List.map_append, List.map_cons]
  · rw [hchildren, hafter, List.map_append, List.map_cons]

/-! ## Times -/

/-- What is shown for a second with a timestamp. -/
theorem lastPlayedAt_of_hasFourDigitYear {utcTime : String} {seconds : Int}
    (hread : Numeral.signed? utcTime = some seconds) (h : Timestamp.HasFourDigitYear seconds) :
    Dialect.lastPlayedAt utcTime = Timestamp.ofSeconds seconds := by
  rw [Dialect.lastPlayedAt, hread]
  exact if_pos h.isWritable

/-- **What becomes of the time** that comes with a play. -/
structure KeepsTime (request : RecentRequest) (sources : List Source) (stored after : List Recent)
    (old? : Option Recent) (entry : Recent) : Prop where
  /-- The second of a timestamp is stored, rounded down. -/
  given : ∀ t, Timestamp.IsTimestamp request.lastPlayedAt.toList t →
    entry.utcTime = Int.repr ⌊t⌋
  /-- The same second is shown, in the zone at zero. -/
  shown : ∀ t, Timestamp.IsTimestamp request.lastPlayedAt.toList t →
    Timestamp.HasFourDigitYear ⌊t⌋ →
    ∃ text, (Dialect.lastPlayedAt entry.utcTime).toList = text ++ ['Z']
      ∧ Timestamp.IsDateTime 'T' text ⌊t⌋
  /-- What is shown for a second is stored as the second. -/
  returned : ∀ seconds, Timestamp.HasFourDigitYear seconds →
    request.lastPlayedAt = Dialect.lastPlayedAt (Int.repr seconds) →
    entry.utcTime = Int.repr seconds
  /-- An entry that comes back with the time that was shown for it stays in its place. -/
  unmoved : ∀ old ∈ old?, ∀ seconds, old.playedAt = some seconds →
    Timestamp.HasFourDigitYear seconds →
    request.lastPlayedAt = Dialect.lastPlayedAt old.utcTime →
    entry.playedAt = some seconds ∧ ∃ above below,
      (Dialect.recents sources stored).children
          = above ++ (Dialect.recent sources old).toNode :: below
        ∧ (Dialect.recents sources after).children
          = above ++ (Dialect.recent sources entry).toNode :: below

/-- **Every play that is recorded keeps its time.** -/
theorem RecordsPlay.keepsTime {d' : Disk} {w : Written} {a : Identifier} {sources : List Source}
    {stored after front : List Recent} {old? : Option Recent} {entry : Recent} {back : List Recent}
    (h : RecordsPlay s account body d d' w request a sources stored after front old? entry back) :
    KeepsTime request sources stored after old? entry where
  given t htime := by
    rw [h.time_eq, Timestamp.seconds?_of_isTimestamp htime, Option.getD_some]
  shown t htime hyear := by
    rw [h.time_eq, Timestamp.seconds?_of_isTimestamp htime, Option.getD_some,
      lastPlayedAt_of_hasFourDigitYear hyear.signed?_repr hyear]
    exact Timestamp.isDateTime_ofSeconds hyear
  returned seconds hyear hshown := by
    rw [lastPlayedAt_of_hasFourDigitYear hyear.signed?_repr hyear] at hshown
    rw [h.time_eq, hshown, Timestamp.seconds?_ofSeconds hyear, Option.getD_some]
  unmoved := by
    rintro old rfl seconds hold hyear hshown
    rw [lastPlayedAt_of_hasFourDigitYear hold hyear] at hshown
    have hentry : entry.playedAt = some seconds := by
      rw [Recent.playedAt, h.time_eq, hshown, Timestamp.seconds?_ofSeconds hyear,
        Option.getD_some]
      exact hyear.signed?_repr
    refine ⟨hentry, ?_⟩
    have hbefore : stored = front ++ old :: back := by
      rw [h.replaced.before_eq, List.append_assoc]
      rfl
    rw [hbefore, h.replaced.after_eq]
    exact recents_alike (hold.trans hentry.symm) sources front back

end Account

/-- **Times survive.** A play that is understood is recorded exactly if plays can be recorded for its
account and its device, whatever its time is. If it comes with a timestamp in any zone, with or
without a fraction, of an instant in one of the years that have four digits, then the second of the
instant is stored, rounded down, and what is shown for it says the same second in the zone at zero.
If it comes with what is shown for such a second, that second is stored; so an entry that comes back
with the time that was shown for it stays in its place. -/
theorem play_times_survive (s : Store) {account device body : String} {d : Disk}
    {request : RecentRequest} (hrequest : RecentRequest.ofText body = .ok request) :
    ((∃ w d', (Account.addRecent s account device body).run d = (.ok w, d'))
      ↔ Account.CanRecord s account device d)
    ∧ ∀ w d', (Account.addRecent s account device body).run d = (.ok w, d') →
      ∃ a sources stored after front old? entry back,
        Account.RecordsPlay s account body d d' w request a sources stored after front old? entry
          back
        ∧ Account.KeepsTime request sources stored after old? entry := by
  refine ⟨Account.exists_run_addRecent_iff hrequest, fun w d' hrun => ?_⟩
  obtain ⟨request', a, sources, stored, after, front, old?, entry, back, h⟩ :=
    Account.exists_recordsPlay hrun
  obtain rfl := Except.ok.inj (h.request_eq.symm.trans hrequest)
  exact ⟨a, sources, stored, after, front, old?, entry, back, h, h.keepsTime⟩

/-- Three quarters of a second before 1970, told in a zone that is an hour ahead, is in the last
second of 1969. -/
theorem last_second_of_1969_survives :
    let s : Store := { directory := Path.ofTexts ["data"] }
    let body := "<r><lastplayedat>1970-01-01 00:59:59.25+01:00</lastplayedat></r>"
    ∃ w d' a recent, (Account.addRecent s "A" "D" body).run { clock := 1000 } = (.ok w, d')
      ∧ s.recents a d' = .ok [recent] ∧ recent.utcTime = "-1"
      ∧ Dialect.lastPlayedAt recent.utcTime = "1969-12-31T23:59:59Z" := by
  intro s body
  let a : Identifier := { text := "A", valid := by decide }
  have htext : (RecentRequest.ofText body).map (·.lastPlayedAt)
      = .ok "1970-01-01 00:59:59.25+01:00" := by decide
  have hok : ((Account.addRecent s "A" "D" body).run { clock := 1000 }).1.isOk := by
    decide
  have hstored : Account.storedRecents s a { clock := 1000 } = .ok [] := by decide
  obtain ⟨w, d', hrun⟩ := Action.exists_of_isOk hok
  cases hrequest : RecentRequest.ofText body with
  | error e =>
    rw [hrequest] at htext
    cases htext
  | ok request =>
    rw [hrequest] at htext
    have htext : request.lastPlayedAt = "1970-01-01 00:59:59.25+01:00" := Except.ok.inj htext
    obtain ⟨-, hrecords⟩ := play_times_survive s hrequest
    obtain ⟨a', sources, stored, after, front, old?, entry, back, h, htime⟩ := hrecords w d' hrun
    obtain rfl : a' = a := Key.text_inj.1 h.account_eq
    obtain rfl := Except.ok.inj (h.stored_eq.symm.trans hstored)
    obtain ⟨hafter, -⟩ := h.of_new nofun
    have hdateTime : Timestamp.IsDateTime ' '
        (Timestamp.calendarText { year := 1970, month := 1, day := 1 } ' ' 0 59 59) 3599 :=
      .intro .epoch (by decide) (by decide)
    have hfraction : Timestamp.IsFraction ('.' :: Numeral.padded 2 25) ((25 : Nat) / 10 ^ 2) :=
      .digits (by decide) (by decide)
    have hoffset : Timestamp.IsOffset ('+' :: Numeral.padded 2 1 ++ ':' :: Numeral.padded 2 0) 60 :=
      .ahead (by decide) (by decide)
    have hstamp : Timestamp.IsTimestamp request.lastPlayedAt.toList (-3 / 4) := by
      convert Timestamp.IsTimestamp.intro (by decide : ' ' ∈ ['T', 't', ' ']) hdateTime hfraction
        hoffset using 1
      · rw [htext]
        decide
      · norm_num
    have hfloor : ⌊(-3 / 4 : ℚ)⌋ = -1 := by
      rw [Int.floor_eq_iff]
      norm_num
    have hutcTime := htime.given _ hstamp
    rw [hfloor] at hutcTime
    refine ⟨w, d', _, entry, hrun, hafter ▸ h.after_eq, hutcTime, ?_⟩
    rw [hutcTime]
    decide

end SpeakerHub
