import SpeakerHub.Proofs.Account.Entries

/-! # Presets by their buttons

The presets of an account are a map from button numbers: whatever was put behind buttons, and in
whatever spelling of their numbers, there is one preset for each button that was used, in the order
in which they were first used.

* **`Post`** — something put behind a button; **`Post.buttons`** — the presets that posts make up.
* **`Post.buttons_concat`** — one post more is one change of the list.
* **`Posted`** — a run of posts, with anything in between that leaves the presets.
* **`presets_are_a_map`** — the presets are those that the posts make up. -/

namespace SpeakerHub

/-! ## Posts -/

/-- Something that was put behind a button. -/
structure Post where
  /-- The account. -/
  account : Identifier
  /-- The number of the button. -/
  number : Nat
  /-- What it is to play. -/
  request : PresetRequest
  /-- The source that was known under the id in the request. -/
  source : SourceKey
  /-- When it was put there. -/
  time : String

namespace Post

/-- A preset that was first put behind its button by one post, and last by another one. -/
def preset (first last : Post) : Preset where
  item := {
    id := Nat.repr last.number
    name := last.request.name
    source := last.source
    kind := last.request.kind
    location := last.request.location }
  createdOn := first.time
  updatedOn := last.time
  containerArt := last.request.containerArt

/-- The preset behind a button after some posts, by the first and the last of those for it. -/
def button? (posts : List Post) (number : Nat) : Option Preset :=
  match posts.filter (·.number == number) with
  | [] => none
  | first :: rest => some (preset first (rest.getLastD first))

/-- The numbers of the buttons that were used, in the order of their first use. -/
def numbers (posts : List Post) : List Nat :=
  (posts.map (·.number)).eraseDups

/-- **The presets that posts make up**: one for each button that was used. -/
def buttons (posts : List Post) : List Preset :=
  (numbers posts).filterMap (button? posts)

/-- A button was used if there is a post for it. -/
theorem mem_numbers {posts : List Post} {number : Nat} :
    number ∈ numbers posts ↔ posts.filter (·.number == number) ≠ [] := by
  simp [numbers, List.filter_eq_nil_iff]

/-- A button that was used has a preset with its number. -/
theorem exists_button {posts : List Post} {number : Nat} (h : number ∈ numbers posts) :
    ∃ p, button? posts number = some p ∧ p.item.id = Nat.repr number := by
  rw [mem_numbers] at h
  cases hposts : posts.filter (·.number == number) with
  | nil => exact absurd hposts h
  | cons first rest =>
    have hlast : rest.getLastD first ∈ posts.filter (·.number == number) := by
      rw [hposts]
      exact List.getLastD_mem_cons
    have hnumber : (rest.getLastD first).number = number := by
      simpa using (List.mem_filter.1 hlast).2
    exact ⟨preset first (rest.getLastD first), by rw [button?, hposts], by rw [preset, hnumber]⟩

/-- A post leaves the other buttons. -/
theorem button_concat_of_ne {posts : List Post} {post : Post} {number : Nat}
    (h : number ≠ post.number) : button? (posts ++ [post]) number = button? posts number := by
  have hfilter : (posts ++ [post]).filter (·.number == number)
      = posts.filter (·.number == number) := by
    rw [List.filter_append, List.filter_cons_of_neg (by simpa using h.symm), List.filter_nil,
      List.append_nil]
  rw [button?, button?, hfilter]

/-- A preset after another post for its button: all but the time of its first use is new. -/
def renew (post : Post) (p : Preset) : Preset :=
  { preset post post with createdOn := p.createdOn }

/-- **A post changes its own button**, or uses it for the first time. -/
theorem button_concat_self (posts : List Post) (post : Post) :
    button? (posts ++ [post]) post.number
      = some ((button? posts post.number).elim (preset post post) post.renew) := by
  have hfilter : (posts ++ [post]).filter (·.number == post.number)
      = posts.filter (·.number == post.number) ++ [post] := by
    rw [List.filter_append, List.filter_cons_of_pos (by simp), List.filter_nil]
  rw [button?, button?, hfilter]
  cases posts.filter (·.number == post.number) with
  | nil => rfl
  | cons first rest =>
    simp only [List.cons_append, List.getLastD_concat, Option.elim_some]
    rfl

/-- **One post more** is one change of the presets. -/
theorem buttons_concat (posts : List Post) (post : Post) :
    (upsert (·.item.id == Nat.repr post.number) post.renew (preset post post) (buttons posts)).2
      = buttons (posts ++ [post]) := by
  have hmake (k : Nat) (hk : k ∈ posts.map (·.number)) : ∃ p, button? posts k = some p
      ∧ ((p.item.id == Nat.repr post.number) = true ↔ k = post.number) := by
    obtain ⟨p, hp, hid⟩ := exists_button (List.mem_eraseDups.2 hk)
    refine ⟨p, hp, ?_⟩
    rw [beq_iff_eq, hid, Numeral.repr_inj]
  have hnone (h : post.number ∉ posts.map (·.number)) : button? posts post.number = none := by
    have hposts : ¬post.number ∈ numbers posts := mt List.mem_eraseDups.1 h
    rw [mem_numbers, not_not] at hposts
    rw [button?, hposts]
  have hothers (k : Nat) (_ : k ∈ posts.map (·.number)) (hk : k ≠ post.number) :
      button? (posts ++ [post]) k = button? posts k := button_concat_of_ne hk
  have hkeys : (posts ++ [post]).map (·.number) = posts.map (·.number) ++ [post.number] := by
    rw [List.map_append, List.map_singleton]
  rw [buttons, buttons, numbers, numbers, hkeys]
  exact upsert_eraseDups hmake hnone hothers (button_concat_self posts post)

/-- **Every button that was used** has one preset, under its number. -/
theorem ids_buttons (posts : List Post) :
    (buttons posts).map (·.item.id) = (numbers posts).map Nat.repr :=
  map_filterMap_eq fun _ hk => exists_button hk

/-! ## Runs of posts -/

/-- **A post is made** by a request that goes well: it has the number of the button, however that is
spelled, the source that is configured under the id in the request, and the time of the clock. -/
def Made (s : Store) (d : Disk) (post : Post) (d' : Disk) : Prop :=
  ∃ device button body sources written,
    Numeral.unsigned? UInt32.size button = some post.number
      ∧ PresetRequest.ofText body = .ok post.request
      ∧ Account.storedSources s post.account d = .ok sources
      ∧ post.source = Account.keyOfSource sources post.request.sourceId
      ∧ post.time = Timestamp.ofMilliseconds d.clock
      ∧ (Account.putPreset s post.account.text device button body).run d = (.ok written, d')

/-- A button is given something to play as its post says. -/
theorem withPreset_eq {post : Post} {sources : List Source}
    (h : post.source = Account.keyOfSource sources post.request.sourceId) (stored : List Preset) :
    Account.withPreset post.number post.request sources post.time stored
      = upsert (·.item.id == Nat.repr post.number) post.renew (preset post post) stored := by
  unfold renew preset
  rw [h]
  rfl

/-- **A post that is made** is one change of the stored presets. -/
theorem Made.saved {s : Store} {d d' : Disk} {post : Post} (h : post.Made s d d') :
    ∃ stored, Account.storedPresets s post.account d = .ok stored
      ∧ s.Change d (some (.presets post.account.text (upsert (·.item.id == Nat.repr post.number)
        post.renew (preset post post) stored).2)) d' := by
  obtain ⟨device, button, body, sources, written, hnumber, hrequest, hsources, hsource, htime,
    hrun⟩ := h
  have hcases := Account.putsPreset s post.account.text device button body d
  rw [hrun] at hcases
  cases hcases with
  | stored hnumber' hrequest' hdevice haccount hsources' hstored hends =>
    obtain rfl := Key.text_inj.1 (Identifier.ofText_eq_ok_iff.1 haccount)
    obtain rfl := Option.some_inj.1 (hnumber'.symm.trans hnumber)
    obtain rfl := Except.ok.inj (hrequest'.symm.trans hrequest)
    obtain rfl := Except.ok.inj (hsources'.symm.trans hsources)
    rw [← htime, withPreset_eq hsource] at hends
    cases hends with
    | done hsaved => exact ⟨_, hstored, hsaved⟩

/-- **Every request that goes well** makes a post. -/
theorem exists_made {s : Store} {d d' : Disk} {account device button body : String}
    {written : Account.Written}
    (hrun : (Account.putPreset s account device button body).run d = (.ok written, d')) :
    ∃ post : Post, post.account.text = account
      ∧ Numeral.unsigned? UInt32.size button = some post.number ∧ post.Made s d d' := by
  have hcases := Account.putsPreset s account device button body d
  rw [hrun] at hcases
  cases hcases with
  | @stored number request _ id sources _ _ _ hnumber hrequest _ haccount hsources _ _ =>
    obtain rfl := Identifier.ofText_eq_ok_iff.1 haccount
    let post : Post := {
      account := id
      number
      request
      source := Account.keyOfSource sources request.sourceId
      time := Timestamp.ofMilliseconds d.clock }
    refine ⟨post, rfl, hnumber, ?_⟩
    exact ⟨device, button, body, sources, written, hnumber, hrequest, hsources, rfl, rfl, hrun⟩

end Post

/-- A deed that stores presets, but not as such, gives a button something to play. -/
theorem Deed.eq_putPreset {deed : Deed} {account : String}
    (hdeed : ∀ account xs, deed ≠ .save (.presets account xs))
    (hlist : deed.list? = some (account, .presets)) :
    ∃ device button body, deed = .request account (.putPreset device button body) := by
  cases deed with
  | request name op =>
    cases op with
    | putPreset device button body =>
      cases hlist
      exact ⟨device, button, body, rfl⟩
    | _ => cases hlist
  | save save =>
    cases save with
    | presets name xs => exact absurd rfl (hdeed name xs)
    | _ => cases hlist

/-- The same presets can be read on two disks. -/
def Store.SamePresets (s : Store) (d d' : Disk) : Prop :=
  ∀ account xs, s.presets account d' = .ok xs ↔ s.presets account d = .ok xs

/-- **A run of posts**, with anything in between that leaves the presets. -/
inductive Posted (s : Store) (d : Disk) : List Post → Disk → Prop where
  /-- Nothing was posted. -/
  | start : Posted s d [] d
  /-- One post more is made, at any time. -/
  | post {posts : List Post} {post : Post} {d₁ d₂ : Disk} (before : Posted s d posts d₁)
      (clock : Int) (hmade : post.Made s (d₁.atTime clock) d₂) : Posted s d (posts ++ [post]) d₂
  /-- Something else is done. -/
  | other {posts : List Post} {d₁ d₂ : Disk} (before : Posted s d posts d₁)
      (hsame : s.SamePresets d₁ d₂) : Posted s d posts d₂

namespace Posted

variable {s : Store} {d d' : Disk} {posts : List Post}

/-- **Whatever is done** is a post, or leaves the presets, unless it is to save presets as such. -/
theorem deed (h : Posted s d posts d') (clock : Int) {deed : Deed}
    (hdeed : ∀ account xs, deed ≠ .save (.presets account xs)) :
    ∃ posts', Posted s d (posts ++ posts') ((deed.run s).run (d'.atTime clock)).2 := by
  rcases deed.leaves_or_stores s .presets (d'.atTime clock)
    with ⟨save?, hchange, hother⟩ | ⟨account, hlist, hok⟩
  · refine ⟨[], ?_⟩
    rw [List.append_nil]
    exact h.other fun account xs => hchange.presets_iff (hother account) xs
  · -- Presets were stored, so the deed went well and was for a button.
    obtain ⟨device, button, body, rfl⟩ := Deed.eq_putPreset hdeed hlist
    rw [Deed.run_written rfl] at hok ⊢
    rcases hrun : (Account.putPreset s account.text device button body).run (d'.atTime clock)
      with ⟨e | written, d₂⟩ <;> rw [hrun] at hok
    · cases hok
    · obtain ⟨post, -, -, hmade⟩ := Post.exists_made hrun
      exact ⟨[post], h.post clock hmade⟩

/-- **The presets that can be read after a run** are those that the posts of the account make up,
and they can be read if there was one. -/
theorem presets_eq (h : Posted s d posts d')
    (hempty : ∀ account xs, s.presets account d = .ok xs → xs = []) (account : Identifier) :
    ReadsAs Post.buttons (s.presets account d') (posts.filter (·.account = account)) := by
  induction h with
  | start => exact .start rfl (hempty account)
  | other before hsame ih => exact ih.congr (hsame account)
  | @post posts post d₁ d₂ before clock hmade ih =>
    obtain ⟨stored, hstored, hchange⟩ := hmade.saved
    rw [List.filter_append]
    by_cases haccount : post.account = account
    · -- A post of the account: one change of what its earlier posts make up.
      subst haccount
      obtain rfl := ih.orEmpty_eq rfl hstored
      rw [List.filter_cons_of_pos (by simp), List.filter_nil]
      have hafter := hchange.presets_saved
      rw [Post.buttons_concat] at hafter
      exact .stored hafter
    · have hother (xs : List Preset) : (some (Save.presets post.account.text xs)).bind Save.list?
          ≠ some (account.text, .presets) := fun heq =>
        haccount (Key.text_inj.1 (congrArg Prod.fst (Option.some_inj.1 heq)))
      rw [List.filter_cons_of_neg (by simpa using haccount), List.filter_nil, List.append_nil]
      exact ih.congr (hchange.presets_iff (hother _))

end Posted

/-- **Presets are a map from button numbers.** After a run of posts, from where no account had
presets, the presets of each account are those that its posts make up: one for each number that was
posted, in the order in which the numbers were first posted, with the number in decimal digits as
its id. -/
theorem presets_are_a_map (s : Store) {d d' : Disk} {posts : List Post} (h : Posted s d posts d')
    (hempty : ∀ account xs, s.presets account d = .ok xs → xs = []) (account : Identifier) :
    let mine := posts.filter (·.account = account)
    (mine ≠ [] → s.presets account d' = .ok (Post.buttons mine))
      ∧ (∀ xs, s.presets account d' = .ok xs → xs = Post.buttons mine)
      ∧ (Post.buttons mine).map (·.item.id) = (Post.numbers mine).map Nat.repr := by
  intro mine
  obtain ⟨hread, hsome⟩ := h.presets_eq hempty account
  refine ⟨fun hne => ?_, hread, Post.ids_buttons mine⟩
  obtain ⟨xs, hxs⟩ := hsome hne
  rw [hxs, hread xs hxs]

/-- Two accounts that spell the number of a button in their own ways have a preset under the same
number. -/
theorem presets_under_one_number :
    let s : Store := { directory := Path.ofTexts ["data"] }
    let d : Disk := { clock := 0 }
    let first := (Account.putPreset s "A" "D" "03" "<preset/>").run (d.atTime 1000)
    let second := (Account.putPreset s "B" "D" "+3" "<preset/>").run (first.2.atTime 2000)
    (s.presets { text := "A", valid := by decide } second.2).map (·.map (·.item.id)) = .ok ["3"]
      ∧ (s.presets { text := "B", valid := by decide } second.2).map (·.map (·.item.id))
        = .ok ["3"] := by
  intro s d first second
  let a : Identifier := { text := "A", valid := by decide }
  let b : Identifier := { text := "B", valid := by decide }
  obtain ⟨w, d₁, hfirst⟩ := Action.exists_of_isOk (by decide : first.1.isOk = true)
  obtain ⟨w', d₂, hsecond⟩ := Action.exists_of_isOk (by decide : second.1.isOk = true)
  obtain ⟨p, hp, hnumber, hmade⟩ := Post.exists_made hfirst
  obtain ⟨q, hq, hnumber', hmade'⟩ := Post.exists_made hsecond
  have hbetween : first.2 = d₁ := congrArg Prod.snd hfirst
  have hend : second.2 = d₂ := congrArg Prod.snd hsecond
  rw [hbetween] at hmade'
  have hposted : Posted s d ([] ++ [p] ++ [q]) d₂ :=
    (Posted.start.post 1000 hmade).post 2000 hmade'
  have hpa : p.account = a := Key.text_inj.1 hp
  have hqb : q.account = b := Key.text_inj.1 hq
  have hp3 : p.number = 3 := Option.some_inj.1 (hnumber.symm.trans (by decide))
  have hq3 : q.number = 3 := Option.some_inj.1 (hnumber'.symm.trans (by decide))
  have hempty (account : Identifier) (xs : List Preset) (h : s.presets account d = .ok xs) :
      xs = [] :=
    absurd h (Store.read_empty (by simp [Store.resourcePath, Path.ofTexts]) _ 0 xs)
  have hthree {r : Post} (hr : r.number = 3) : (Post.numbers [r]).map Nat.repr = ["3"] := by
    rw [Post.numbers, List.map_singleton, hr]
    decide
  obtain ⟨hreada, -, hidsa⟩ := presets_are_a_map s hposted hempty a
  obtain ⟨hreadb, -, hidsb⟩ := presets_are_a_map s hposted hempty b
  have hmine : ([] ++ [p] ++ [q]).filter (·.account = a) = [p] := by
    simp +decide [hpa, hqb, a, b]
  have hmine' : ([] ++ [p] ++ [q]).filter (·.account = b) = [q] := by
    simp +decide [hpa, hqb, a, b]
  rw [hmine] at hreada hidsa
  rw [hmine'] at hreadb hidsb
  rw [hend]
  constructor
  · rw [hreada (List.cons_ne_nil p []), Except.map, hidsa, hthree hp3]
  · rw [hreadb (List.cons_ne_nil q []), Except.map, hidsb, hthree hq3]

end SpeakerHub
