import SpeakerHub.Proofs.Account.Entries
import SpeakerHub.Proofs.Text.Numeral

/-! # Recents by their items

The recents of an account hold one entry for each item that was played, from one place of one
source, in the order in which the items were first played. The entries are numbered in this order,
and each says what was said of its item last.

* **`Play`** — something that was played; **`Play.entries`** — the recents that plays make up.
* **`Play.nextRecentId_entries`** — the next number, from the greatest one in use.
* **`Play.entries_concat`** — one play more is one change of the list.
* **`Played`** — a run of plays, with anything in between that leaves the recents.
* **`recents_are_one_per_item`** — the recents are those that the plays make up. -/

namespace SpeakerHub

/-- What makes two plays plays of one item. -/
structure Origin where
  /-- The source, by its kind and its account. -/
  source : SourceKey
  /-- The place there. -/
  location : String
  deriving DecidableEq

/-- Where a recent was played from. -/
def Recent.origin (r : Recent) : Origin where
  source := r.item.source
  location := r.item.location

/-! ## Plays -/

/-- Something that was played. -/
structure Play where
  /-- The account. -/
  account : Identifier
  /-- The device that played it. -/
  device : Identifier
  /-- What the device said. -/
  request : RecentRequest
  /-- The source that was known under the id in the request. -/
  source : SourceKey
  /-- The second in which it was played. -/
  seconds : Int

namespace Play

/-- Where something was played from. -/
def origin (p : Play) : Origin where
  source := p.source
  location := p.request.location

/-- What was played, in the order in which it was first played. -/
def origins (plays : List Play) : List Origin :=
  (plays.map origin).eraseDups

/-- The last play of an item. -/
def last? (plays : List Play) (key : Origin) : Option Play :=
  plays.reverse.find? (·.origin == key)

/-- The id of the recent with a number. An id has 64 bits: numbers that have more become zero. -/
def idOf (n : Nat) : Nat :=
  if n < UInt64.size then n else 0

/-- The id of the recent of an item. -/
def id (plays : List Play) (key : Origin) : Nat :=
  idOf ((origins plays).idxOf key + 1)

/-- A recent with an id, after a play. -/
def recent (id : Nat) (p : Play) : Recent where
  item := {
    id := Nat.repr id
    name := p.request.name
    source := p.source
    kind := p.request.kind
    location := p.request.location }
  deviceId := p.device.text
  utcTime := Int.repr p.seconds

/-- The recent of an item, by its last play. -/
def recent? (plays : List Play) (key : Origin) : Option Recent :=
  (last? plays key).map (recent (id plays key))

/-- **The recents that plays make up**: one for each item that was played. -/
def entries (plays : List Play) : List Recent :=
  (origins plays).filterMap (recent? plays)

/-! ## The last play -/

variable {plays : List Play} {key : Origin}

/-- An item that was played was last played at some time. -/
theorem exists_last (h : key ∈ plays.map origin) :
    ∃ p, last? plays key = some p ∧ p.origin = key := by
  cases hlast : last? plays key with
  | none =>
    obtain ⟨p, hp, hkey⟩ := List.mem_map.1 h
    have hno := List.find?_eq_none.1 hlast p (List.mem_reverse.2 hp)
    exact absurd (beq_iff_eq.2 hkey) hno
  | some p =>
    have hkey := List.find?_some hlast
    exact ⟨p, rfl, beq_iff_eq.1 hkey⟩

/-- An item that was never played was not played last. -/
theorem last_of_not_mem (h : key ∉ plays.map origin) : last? plays key = none := by
  apply List.find?_eq_none.2
  intro p hp hkey
  exact h (List.mem_map.2 ⟨p, List.mem_reverse.1 hp, beq_iff_eq.1 hkey⟩)

/-- One play more is the last one of its item, and of no other. -/
theorem last_concat (plays : List Play) (p : Play) (key : Origin) :
    last? (plays ++ [p]) key = if p.origin = key then some p else last? plays key := by
  rw [last?, List.reverse_append, List.reverse_singleton, List.singleton_append, List.find?_cons]
  by_cases hkey : p.origin = key
  · rw [if_pos hkey, beq_iff_eq.2 hkey]
  · rw [if_neg hkey, beq_eq_false_iff_ne.2 hkey]
    rfl

/-- **An item that was played has an entry**, with its origin and its id. -/
theorem exists_recent (h : key ∈ plays.map origin) :
    ∃ r, recent? plays key = some r ∧ r.origin = key ∧ r.item.id = Nat.repr (id plays key) := by
  obtain ⟨p, hp, hkey⟩ := exists_last h
  refine ⟨recent (id plays key) p, ?_, hkey, rfl⟩
  rw [recent?, hp, Option.map_some]

/-! ## Ids -/

/-- The id of an item stays the same. -/
theorem id_append (h : key ∈ plays.map origin) (more : List Play) :
    id (plays ++ more) key = id plays key := by
  obtain ⟨new, hnew⟩ := exists_eraseDups_append (plays.map origin) (more.map origin)
  rw [id, id, origins, List.map_append, hnew, origins,
    List.idxOf_append_of_mem (List.mem_eraseDups.2 h)]

/-- An item that is new has the next id. -/
theorem id_concat_of_not_mem {p : Play} (h : p.origin ∉ plays.map origin) :
    id (plays ++ [p]) p.origin = idOf ((origins plays).length + 1) := by
  have hnew : p.origin ∉ (plays.map origin).eraseDups := mt List.mem_eraseDups.1 h
  rw [id, origins, List.map_append, List.map_singleton, eraseDups_concat_of_not_mem h,
    List.idxOf_append_of_notMem hnew, List.idxOf_cons_self, Nat.add_zero, origins]

/-- **The entries are numbered** in their order. -/
theorem ids_entries (plays : List Play) : (entries plays).map (·.item.id)
    = (List.range' 1 (origins plays).length).map fun n => Nat.repr (idOf n) := by
  have hids : (entries plays).map (·.item.id)
      = (origins plays).map fun k => Nat.repr (id plays k) := by
    apply map_filterMap_eq
    intro k hk
    obtain ⟨r, hr, -, hid⟩ := exists_recent (List.mem_eraseDups.1 hk)
    exact ⟨r, hr, hid⟩
  have hdistinct : (origins plays).Nodup := Disk.nodup_eraseDups _
  rw [hids, ← map_idxOf_of_nodup hdistinct, List.map_map]
  rfl

/-- The greatest of the first ids. -/
theorem foldl_max_idOf (n : Nat) :
    ((List.range' 1 n).map idOf).foldl max 0 = min n (UInt64.size - 1) := by
  induction n with
  | zero => rfl
  | succ n ih =>
    -- A number that is too great counts as zero, so the greatest stays what it was.
    rw [List.range'_1_concat, List.map_append, List.foldl_append, ih, List.map_singleton,
      List.foldl_cons, List.foldl_nil, idOf]
    simp only [UInt64.size]
    split <;> omega

/-- **The next id** is found from the greatest one in use. -/
theorem nextRecentId_entries (plays : List Play) :
    Account.nextRecentId (entries plays) = idOf ((origins plays).length + 1) := by
  have hlt (n : Nat) : idOf n < UInt64.size := by
    unfold idOf
    split
    · assumption
    · decide
  have hnumbers : (entries plays).filterMap (fun r => Numeral.unsigned? UInt64.size r.item.id)
      = (List.range' 1 (origins plays).length).map idOf := by
    have hmap : (entries plays).filterMap (fun r => Numeral.unsigned? UInt64.size r.item.id)
        = ((entries plays).map (·.item.id)).filterMap (Numeral.unsigned? UInt64.size) := by
      rw [List.filterMap_map]
      rfl
    rw [hmap, ids_entries, List.filterMap_map]
    have hread : (Numeral.unsigned? UInt64.size ∘ fun n => Nat.repr (idOf n))
        = fun n => some (idOf n) := by
      funext n
      exact Numeral.unsigned?_repr (hlt n)
    rw [hread]
    exact congrFun List.filterMap_eq_map _
  rw [Account.nextRecentId, hnumbers, foldl_max_idOf, idOf]
  simp only [UInt64.size]
  split <;> omega

/-! ## One play more -/

/-- A recent after another play of its item: its origin and its id are kept. -/
def renew (p : Play) (r : Recent) : Recent :=
  { r with
    item := { r.item with name := p.request.name, kind := p.request.kind }
    deviceId := p.device.text
    utcTime := Int.repr p.seconds }

/-- Of a recent that is renewed only the id is left. -/
theorem renew_recent {p q : Play} (h : q.origin = p.origin) (id : Nat) :
    p.renew (recent id q) = recent id p := by
  obtain ⟨hsource, hlocation⟩ := Origin.mk.inj h
  simp only [renew, recent, hsource, hlocation]

/-- **A play changes the entry of its item**, or makes the first one. -/
theorem recent_concat_self (plays : List Play) (p : Play) :
    recent? (plays ++ [p]) p.origin
      = some ((recent? plays p.origin).elim
        (recent (Account.nextRecentId (entries plays)) p) p.renew) := by
  have hlatest : recent? (plays ++ [p]) p.origin
      = some (recent (id (plays ++ [p]) p.origin) p) := by
    rw [recent?, last_concat, if_pos rfl, Option.map_some]
  rw [hlatest]
  -- What was played before keeps the id it has; what is new gets the next one.
  by_cases hmem : p.origin ∈ plays.map origin
  · obtain ⟨q, hq, hkey⟩ := exists_last hmem
    rw [id_append hmem, recent?, hq, Option.map_some, Option.elim_some, renew_recent hkey]
  · rw [id_concat_of_not_mem hmem, recent?, last_of_not_mem hmem, nextRecentId_entries]
    rfl

/-- A play leaves the entries of other items. -/
theorem recent_concat_of_ne {p : Play} (h : key ∈ plays.map origin) (hne : key ≠ p.origin) :
    recent? (plays ++ [p]) key = recent? plays key := by
  rw [recent?, recent?, last_concat, if_neg hne.symm, id_append h]

/-- Whether a recent is one of the item that is played. -/
def isSame (p : Play) (r : Recent) : Bool :=
  r.item.source == p.source && r.item.location == p.request.location

/-- It is if it was played from the same place. -/
theorem isSame_iff {p : Play} {r : Recent} : p.isSame r = true ↔ r.origin = p.origin := by
  rw [isSame, Bool.and_eq_true, beq_iff_eq, beq_iff_eq, Recent.origin, origin, Origin.mk.injEq]

/-- **One play more** is one change of the recents. -/
theorem entries_concat (plays : List Play) (p : Play) :
    (upsert p.isSame p.renew (recent (Account.nextRecentId (entries plays)) p) (entries plays)).2
      = entries (plays ++ [p]) := by
  have hmake (k : Origin) (hk : k ∈ plays.map origin) :
      ∃ r, recent? plays k = some r ∧ (p.isSame r = true ↔ k = p.origin) := by
    obtain ⟨r, hr, horigin, -⟩ := exists_recent hk
    exact ⟨r, hr, by rw [isSame_iff, horigin]⟩
  have hnone (h : p.origin ∉ plays.map origin) : recent? plays p.origin = none := by
    rw [recent?, last_of_not_mem h, Option.map_none]
  have hothers (k : Origin) (hk : k ∈ plays.map origin) (hne : k ≠ p.origin) :
      recent? (plays ++ [p]) k = recent? plays k := recent_concat_of_ne hk hne
  have hkeys : (plays ++ [p]).map origin = plays.map origin ++ [p.origin] := by
    rw [List.map_append, List.map_singleton]
  have hone := upsert_eraseDups hmake hnone hothers (recent_concat_self plays p)
  rw [← hkeys] at hone
  exact hone

/-! ## What the entries say -/

/-- **There is one entry for each item.** -/
theorem origins_entries (plays : List Play) :
    (entries plays).map Recent.origin = origins plays := by
  have horigins : (entries plays).map Recent.origin = (origins plays).map fun k => k := by
    apply map_filterMap_eq
    intro k hk
    obtain ⟨r, hr, horigin, -⟩ := exists_recent (List.mem_eraseDups.1 hk)
    exact ⟨r, hr, horigin⟩
  rw [horigins, List.map_id']

/-- **An entry says what was said last** of its item. -/
theorem exists_last_of_mem {r : Recent} (h : r ∈ entries plays) :
    ∃ p, last? plays r.origin = some p ∧ r.item.name = p.request.name
      ∧ r.item.kind = p.request.kind ∧ r.deviceId = p.device.text
      ∧ r.utcTime = Int.repr p.seconds := by
  obtain ⟨k, hk, hr⟩ := List.mem_filterMap.1 h
  obtain ⟨p, hp, hkey⟩ := exists_last (List.mem_eraseDups.1 hk)
  rw [recent?, hp, Option.map_some, Option.some_inj] at hr
  subst hr
  have horigin : (recent (id plays k) p).origin = k := hkey
  exact ⟨p, by rw [horigin, hp], rfl, rfl, rfl, rfl⟩

/-- A first play makes up one recent. -/
theorem entries_singleton (p : Play) : entries [p] = [recent 1 p] := by
  have horigins : origins [p] = [p.origin] := by
    rw [origins, List.map_singleton, List.eraseDups_cons, List.filter_nil, List.eraseDups_nil]
  simp [entries, horigins, recent?, last?, id, idOf, UInt64.size]

/-- An entry with its id. -/
def identity (r : Recent) : String × Origin :=
  (r.item.id, r.origin)

/-- **Entries keep their places and their ids**, whatever is played later. -/
theorem entries_append (plays more : List Play) :
    (entries plays).map identity <+: (entries (plays ++ more)).map identity := by
  have hidentities (plays : List Play) : (entries plays).map identity
      = (origins plays).map fun k => (Nat.repr (id plays k), k) := by
    apply map_filterMap_eq
    intro k hk
    obtain ⟨r, hr, horigin, hid⟩ := exists_recent (List.mem_eraseDups.1 hk)
    exact ⟨r, hr, by rw [identity, horigin, hid]⟩
  obtain ⟨new, hnew⟩ := exists_eraseDups_append (plays.map origin) (more.map origin)
  have horigins : origins (plays ++ more) = origins plays ++ new := by
    rw [origins, List.map_append, hnew, origins]
  -- New items come behind, so that the places and with them the ids are kept.
  have hkept : (origins plays).map (fun k => (Nat.repr (id (plays ++ more) k), k))
      = (origins plays).map fun k => (Nat.repr (id plays k), k) := by
    apply List.map_congr_left
    intro k hk
    rw [id_append (List.mem_eraseDups.1 hk)]
  rw [hidentities, hidentities, horigins, List.map_append, hkept]
  exact List.prefix_append _ _

/-! ## Runs of plays -/

/-- **A play is recorded** by a request that goes well: it has the source that is configured under
the id in the request, and the time that the request gives, or else that of the clock. -/
def Made (s : Store) (d : Disk) (p : Play) (d' : Disk) : Prop :=
  ∃ body sources written,
    RecentRequest.ofText body = .ok p.request
      ∧ Account.storedSources s p.account d = .ok sources
      ∧ p.source = Account.keyOfSource sources p.request.sourceId
      ∧ p.seconds = (Timestamp.seconds? p.request.lastPlayedAt.toList).getD (d.clock / 1000)
      ∧ (Account.addRecent s p.account.text p.device.text body).run d = (.ok written, d')

/-- What was played is recorded as its play says. -/
theorem withRecent_eq {p : Play} {sources : List Source}
    (h : p.source = Account.keyOfSource sources p.request.sourceId) (stored : List Recent) :
    Account.withRecent p.device p.request sources p.seconds stored
      = upsert p.isSame p.renew (recent (Account.nextRecentId stored) p) stored := by
  unfold Account.withRecent isSame renew recent
  rw [h]

/-- **A play that is recorded** is one change of the stored recents. -/
theorem Made.saved {s : Store} {d d' : Disk} {p : Play} (h : p.Made s d d') :
    ∃ stored, Account.storedRecents s p.account d = .ok stored
      ∧ s.Change d (some (.recents p.account.text (upsert p.isSame p.renew
        (recent (Account.nextRecentId stored) p) stored).2)) d' := by
  obtain ⟨body, sources, written, hrequest, hsources, hsource, hseconds, hrun⟩ := h
  have hcases := Account.addsRecent s p.account.text p.device.text body d
  rw [hrun] at hcases
  cases hcases with
  | stored hrequest' hdevice haccount hsources' hstored hends =>
    -- What the request says and what it finds is what the play says.
    obtain rfl := Key.text_inj.1 (Identifier.ofText_eq_ok_iff.1 haccount)
    obtain rfl := Key.text_inj.1 (Identifier.ofText_eq_ok_iff.1 hdevice)
    obtain rfl := Except.ok.inj (hrequest'.symm.trans hrequest)
    obtain rfl := Except.ok.inj (hsources'.symm.trans hsources)
    simp only [← hseconds, withRecent_eq hsource] at hends
    cases hends with
    | done hsaved => exact ⟨_, hstored, hsaved⟩

/-- **Every request that goes well** records a play. -/
theorem exists_made {s : Store} {d d' : Disk} {account device body : String}
    {written : Account.Written}
    (hrun : (Account.addRecent s account device body).run d = (.ok written, d')) :
    ∃ p : Play, p.account.text = account ∧ p.device.text = device
      ∧ RecentRequest.ofText body = .ok p.request ∧ p.Made s d d' := by
  have hcases := Account.addsRecent s account device body d
  rw [hrun] at hcases
  cases hcases with
  | @stored request deviceId id sources _ _ _ hrequest hdevice haccount hsources _ _ =>
    obtain rfl := Identifier.ofText_eq_ok_iff.1 haccount
    obtain rfl := Identifier.ofText_eq_ok_iff.1 hdevice
    let p : Play := {
      account := id
      device := deviceId
      request
      source := Account.keyOfSource sources request.sourceId
      seconds := (Timestamp.seconds? request.lastPlayedAt.toList).getD (d.clock / 1000) }
    refine ⟨p, rfl, rfl, hrequest, ?_⟩
    exact ⟨body, sources, written, hrequest, hsources, rfl, rfl, hrun⟩

end Play

/-- A deed that stores recents, but not as such, records that something was played. -/
theorem Deed.eq_addRecent {deed : Deed} {account : String}
    (hdeed : ∀ account xs, deed ≠ .save (.recents account xs))
    (hlist : deed.list? = some (account, .recents)) :
    ∃ device body, deed = .request account (.addRecent device body) := by
  cases deed with
  | request name op =>
    cases op with
    | addRecent device body =>
      cases hlist
      exact ⟨device, body, rfl⟩
    | _ => cases hlist
  | save save =>
    cases save with
    | recents name xs => exact absurd rfl (hdeed name xs)
    | _ => cases hlist

/-- The same recents can be read on two disks. -/
def Store.SameRecents (s : Store) (d d' : Disk) : Prop :=
  ∀ account xs, s.recents account d' = .ok xs ↔ s.recents account d = .ok xs

/-- **A run of plays**, with anything in between that leaves the recents. -/
inductive Played (s : Store) (d : Disk) : List Play → Disk → Prop where
  /-- Nothing was played. -/
  | start : Played s d [] d
  /-- One play more is recorded, at any time. -/
  | play {plays : List Play} {p : Play} {d₁ d₂ : Disk} (before : Played s d plays d₁)
      (clock : Int) (hmade : p.Made s (d₁.atTime clock) d₂) : Played s d (plays ++ [p]) d₂
  /-- Something else is done. -/
  | other {plays : List Play} {d₁ d₂ : Disk} (before : Played s d plays d₁)
      (hsame : s.SameRecents d₁ d₂) : Played s d plays d₂

namespace Played

variable {s : Store} {d d' : Disk} {plays : List Play}

/-- **Whatever is done** records a play, or leaves the recents, unless it is to save recents as
such. -/
theorem deed (h : Played s d plays d') (clock : Int) {deed : Deed}
    (hdeed : ∀ account xs, deed ≠ .save (.recents account xs)) :
    ∃ plays', Played s d (plays ++ plays') ((deed.run s).run (d'.atTime clock)).2 := by
  rcases deed.leaves_or_stores s .recents (d'.atTime clock)
    with ⟨save?, hchange, hother⟩ | ⟨account, hlist, hok⟩
  · refine ⟨[], ?_⟩
    rw [List.append_nil]
    exact h.other fun account xs => hchange.recents_iff (hother account) xs
  · -- Recents were stored, so the deed went well and something was played.
    obtain ⟨device, body, rfl⟩ := Deed.eq_addRecent hdeed hlist
    rw [Deed.run_written rfl] at hok ⊢
    rcases hrun : (Account.addRecent s account.text device body).run (d'.atTime clock)
      with ⟨e | written, d₂⟩ <;> rw [hrun] at hok
    · cases hok
    · obtain ⟨p, -, -, -, hmade⟩ := Play.exists_made hrun
      exact ⟨[p], h.play clock hmade⟩

/-- **The recents that can be read after a run** are those that the plays of the account make up,
and they can be read if there was one. -/
theorem recents_eq (h : Played s d plays d') {account : Identifier}
    (hempty : ∀ xs, s.recents account d = .ok xs → xs = []) :
    ReadsAs Play.entries (s.recents account d') (plays.filter (·.account = account)) := by
  induction h with
  | start => exact .start rfl hempty
  | other before hsame ih => exact ih.congr (hsame account)
  | @play plays p d₁ d₂ before clock hmade ih =>
    obtain ⟨stored, hstored, hchange⟩ := hmade.saved
    rw [List.filter_append]
    by_cases haccount : p.account = account
    · -- A play of the account: one change of what its earlier plays make up.
      subst haccount
      obtain rfl := ih.orEmpty_eq rfl hstored
      rw [List.filter_cons_of_pos (by simp), List.filter_nil]
      have hafter := hchange.recents_saved
      rw [Play.entries_concat] at hafter
      exact .stored hafter
    · have hother (xs : List Recent) : (some (Save.recents p.account.text xs)).bind Save.list?
          ≠ some (account.text, .recents) := fun heq =>
        haccount (Key.text_inj.1 (congrArg Prod.fst (Option.some_inj.1 heq)))
      rw [List.filter_cons_of_neg (by simpa using haccount), List.filter_nil, List.append_nil]
      exact ih.congr (hchange.recents_iff (hother _))

end Played

/-- **Recents hold one entry for each item that was played.** After a run of plays, from where an
account had no recents, its recents are those that its plays make up: one for each source and place,
in the order of their first plays, with the name, the kind, the device and the time of the last
play. A source is the one that was configured under the id in the request when the play was
recorded, and empty if there was none; it may be another one for the same id later on.

The entries have the ids from one on, as long as these are numbers of 64 bits, which they are in any
list that can be held in memory. Whatever is played later, an entry keeps its place, its origin and
its id. -/
theorem recents_are_one_per_item (s : Store) {d d' : Disk} {plays : List Play}
    (h : Played s d plays d') {account : Identifier}
    (hempty : ∀ xs, s.recents account d = .ok xs → xs = []) :
    let mine := plays.filter (·.account = account)
    (mine ≠ [] → s.recents account d' = .ok (Play.entries mine))
      ∧ (∀ xs, s.recents account d' = .ok xs → xs = Play.entries mine)
      ∧ (Play.entries mine).map Recent.origin = Play.origins mine
      ∧ ((Play.origins mine).length < UInt64.size → (Play.entries mine).map (·.item.id)
        = (List.range' 1 (Play.origins mine).length).map Nat.repr)
      ∧ (∀ r ∈ Play.entries mine, ∃ p, Play.last? mine r.origin = some p
        ∧ r.item.name = p.request.name ∧ r.item.kind = p.request.kind
        ∧ r.deviceId = p.device.text ∧ r.utcTime = Int.repr p.seconds)
      ∧ ∀ more d'', Played s d (plays ++ more) d'' → ∀ xs ys,
        s.recents account d' = .ok xs → s.recents account d'' = .ok ys →
          xs.map Play.identity <+: ys.map Play.identity := by
  intro mine
  have hread := h.recents_eq hempty
  refine ⟨fun hne => ?_, hread.eq, Play.origins_entries mine, fun hlength => ?_,
    fun r hr => Play.exists_last_of_mem hr, fun more d'' hmore xs ys hxs hys => ?_⟩
  · obtain ⟨xs, hxs⟩ := hread.readable hne
    rw [hxs, hread.eq xs hxs]
  · rw [Play.ids_entries]
    apply List.map_congr_left
    intro n hn
    rw [List.mem_range'_1] at hn
    rw [Play.idOf, if_pos (by omega)]
  · rw [hread.eq xs hxs, (hmore.recents_eq hempty).eq ys hys, List.filter_append]
    exact Play.entries_append mine _

/-- Two accounts whose speakers have played something have one recent each. -/
theorem one_recent_for_each_account :
    let s : Store := { directory := Path.ofTexts ["data"] }
    let d : Disk := { clock := 0 }
    let first := ((Account.addRecent s "A" "D" "<recent/>").run (d.atTime 1000)).2
    let second := ((Account.addRecent s "B" "E" "<recent/>").run (first.atTime 2000)).2
    let told (r : Recent) : String × String := (r.item.id, r.deviceId)
    (s.recents { text := "A", valid := by decide } second).map (·.map told) = .ok [("1", "D")]
      ∧ (s.recents { text := "B", valid := by decide } second).map (·.map told)
        = .ok [("1", "E")] := by
  intro s d first second told
  let a : Identifier := { text := "A", valid := by decide }
  let b : Identifier := { text := "B", valid := by decide }
  obtain ⟨w, d₁, hfirst⟩ := Action.exists_of_isOk (by decide :
    ((Account.addRecent s "A" "D" "<recent/>").run (d.atTime 1000)).1.isOk = true)
  obtain ⟨w', d₂, hsecond⟩ := Action.exists_of_isOk (by decide :
    ((Account.addRecent s "B" "E" "<recent/>").run (first.atTime 2000)).1.isOk = true)
  obtain ⟨p, hp, hpd, -, hmade⟩ := Play.exists_made hfirst
  obtain ⟨q, hq, hqe, -, hmade'⟩ := Play.exists_made hsecond
  have hbetween : first = d₁ := congrArg Prod.snd hfirst
  have hend : second = d₂ := congrArg Prod.snd hsecond
  rw [hbetween] at hmade'
  have hplayed : Played s d ([] ++ [p] ++ [q]) d₂ :=
    (Played.start.play 1000 hmade).play 2000 hmade'
  have hpa : p.account = a := Key.text_inj.1 hp
  have hqb : q.account = b := Key.text_inj.1 hq
  have hempty (account : Identifier) (xs : List Recent) (h : s.recents account d = .ok xs) :
      xs = [] :=
    absurd h (Store.read_empty (by simp [Store.resourcePath, Path.ofTexts]) _ 0 xs)
  obtain ⟨hread, -⟩ := recents_are_one_per_item s hplayed (hempty a)
  obtain ⟨hread', -⟩ := recents_are_one_per_item s hplayed (hempty b)
  have hmine : ([] ++ [p] ++ [q]).filter (·.account = a) = [p] := by
    simp +decide [hpa, hqb, a, b]
  have hmine' : ([] ++ [p] ++ [q]).filter (·.account = b) = [q] := by
    simp +decide [hpa, hqb, a, b]
  rw [hmine, Play.entries_singleton] at hread
  rw [hmine', Play.entries_singleton] at hread'
  have htold : told (Play.recent 1 p) = ("1", "D") := Prod.ext rfl hpd
  have htold' : told (Play.recent 1 q) = ("1", "E") := Prod.ext rfl hqe
  rw [hend]
  constructor
  · rw [hread (List.cons_ne_nil p []), Except.map, List.map_singleton, htold]
  · rw [hread' (List.cons_ne_nil q []), Except.map, List.map_singleton, htold']

end SpeakerHub
