import SpeakerHub.Proofs.Store.Layout
import SpeakerHub.Proofs.Store.Writing
import SpeakerHub.Proofs.Text.Numeral

/-! # Tokens

A token is the time of the last change in whole milliseconds. Whatever is written while the clock is
ahead of everything on the disk gets a token that is later than all others.

* **`Disk.IsAhead`** — the clock is ahead; **`Store.token_lt_now`** — every token is earlier then.
* **`Token.text_inj`** — tokens are told apart by how they are shown.
* **`Store.accountToken_eq_ok_iff`** — the token of an account is the latest one of its lists.
* **`Store.isShort_of_resourceToken`**, **`look_resource_of_long`** — which lists have a token along
  names that are too long. -/

namespace SpeakerHub

/-- **The clock is ahead of the disk**: it shows a time after 1970 and after every change. -/
structure Disk.IsAhead (d : Disk) : Prop where
  /-- It shows a time after 1970. -/
  positive : 0 < d.clock
  /-- Everything on the disk is older. -/
  newest : ∀ p i, d.view p = some i → i.modified < d.now

/-- After 1970 the clock is ahead of an empty disk. -/
theorem Disk.isAhead_empty {clock : Int} (h : 0 < clock) : ({ clock } : Disk).IsAhead where
  positive := h
  newest p i hview := by
    cases p with
    | nil =>
      cases hview
      change (0 : Int) < 1000000 * clock
      omega
    | cons name p => cases hview

namespace Token

/-- The token of the time that the clock shows. -/
theorem ofNanoseconds_now (d : Disk) : ofNanoseconds d.now = { value := d.clock.toNat } := by
  simp only [ofNanoseconds, Disk.now, Token.mk.injEq]
  omega

/-- **Tokens are told apart** by how they are shown. -/
theorem text_inj {t u : Token} : t.text = u.text ↔ t = u := by
  rw [text, text, Numeral.repr_inj]
  cases t
  cases u
  simp

end Token

namespace Store

/-- **Every token is earlier** than the clock that is ahead of the disk. -/
theorem token_lt_now {d : Disk} (h : d.IsAhead) {p : Path} {t : Token} (ht : token p d = .ok t) :
    t.value < (Token.ofNanoseconds d.now).value := by
  have hpositive := h.positive
  rw [token_eq_look] at ht
  rw [Token.ofNanoseconds_now]
  split at ht
  case h_1 i hlook =>
    have hnewest := h.newest p i (Disk.view_of_look hlook)
    cases ht
    simp only [Token.ofNanoseconds, Disk.now] at hnewest ⊢
    omega
  case h_2 =>
    cases ht
    change 0 < d.clock.toNat
    omega
  case h_3 => cases ht

/-- The token of a file that was written. -/
theorem token_of_look {d : Disk} {p : Path} {i : Inode} (h : d.look p = .ok i) :
    token p d = .ok (.ofNanoseconds i.modified) := by
  rw [token_eq_look, h]

/-! ## The token of an account -/

section

variable {s : Store} {account : Identifier} {d : Disk}

/-- **The token of an account** is the latest one of its lists. -/
theorem accountToken_eq_ok_iff {t : Token} :
    s.accountToken account d = .ok t ↔ ∃ p r c,
      s.resourceToken account .presets d = .ok p ∧ s.resourceToken account .recents d = .ok r
        ∧ s.resourceToken account .sources d = .ok c ∧ t = (p.latest r).latest c := by
  have hzero (p : Token) : Token.latest { value := 0 } p = p := by
    simp [Token.latest]
  simp only [accountToken, Resource.all, List.foldlM_cons, List.foldlM_nil]
  rcases s.resourceToken account .presets d with e | p <;>
    rcases s.resourceToken account .recents d with e' | r <;>
    rcases s.resourceToken account .sources d with e'' | c <;>
    simp [Except.map, bind, Except.bind, pure, Except.pure, hzero, eq_comm]

/-- No list of an account has a later token. -/
theorem resourceToken_le_accountToken {t u : Token} {resource : Resource}
    (ht : s.accountToken account d = .ok t) (hu : s.resourceToken account resource d = .ok u) :
    u.value ≤ t.value := by
  obtain ⟨p, r, c, hp, hr, hc, rfl⟩ := accountToken_eq_ok_iff.1 ht
  simp only [Token.latest]
  cases resource with
  | presets =>
    obtain rfl := Except.ok.inj (hp.symm.trans hu)
    omega
  | recents =>
    obtain rfl := Except.ok.inj (hr.symm.trans hu)
    omega
  | sources =>
    obtain rfl := Except.ok.inj (hc.symm.trans hu)
    omega

end

end Store

/-! ## Names that are too long -/

/-- What can be looked at has short names on its way. -/
theorem Disk.isShort_of_look {d : Disk} {p : Path} {i : Inode} (h : d.look p = .ok i) :
    p.IsShort := by
  have husable : p.isUnusable = false := by
    by_contra hp
    rw [Bool.not_eq_false] at hp
    rw [look_of_unusable hp] at h
    cases h
  have hview := view_of_look h
  rw [look_of_usable husable, Entry.look_of_view hview] at h
  split at h
  · cases h
  case isFalse hshort =>
    intro n hn
    rw [Bool.not_eq_true, List.any_eq_false] at hshort
    exact Bool.not_eq_true _ ▸ hshort n hn

namespace Store

/-- What can be read can be looked at. -/
theorem exists_look_of_read {α : Type} {p : Path} {ofText? : String → Option α} {d : Disk} {x : α}
    (h : read p ofText? d = .ok x) : ∃ i, d.look p = .ok i := by
  rw [read_eq_look] at h
  rcases hlook : d.look p with fault | i
  · rw [hlook] at h
    cases fault <;> cases h
  · exact ⟨i, rfl⟩

/-- Nothing can be read on an empty disk. -/
theorem read_empty {α : Type} {p : Path} (hp : p ≠ []) (ofText? : String → Option α) (clock : Int)
    (x : α) : read p ofText? { clock } ≠ .ok x := by
  intro h
  obtain ⟨i, hlook⟩ := exists_look_of_read h
  have hview := Disk.view_of_look hlook
  cases p with
  | nil => exact hp rfl
  | cons name rest => cases hview

section

variable {s : Store} {account : Identifier} {resource : Resource} {d : Disk} {t : Token}

/-- The directory of an account is in that of all accounts. -/
theorem accountPath_eq (s : Store) (account : Identifier) :
    s.accountPath account = s.accountsPath ++ [Name.text account.text] := rfl

/-- A list is in the directory of its account. -/
theorem resourcePath_eq (s : Store) (account : Identifier) (resource : Resource) :
    s.resourcePath account resource = s.accountPath account ++ [Name.text resource.fileName] := rfl

/-- The directory of an account has short names on its way if its identifier is short. -/
theorem isShort_accountPath :
    (s.accountPath account).IsShort ↔ s.directory.IsShort ∧ account.IsShort := by
  rw [accountPath, Path.isShort_append, Key.isShort_accountsPath]
  refine and_congr_right fun _ => ?_
  simp [Path.IsShort, Path.ofTexts, Identifier.IsShort]

/-- All lists of an account can be followed if one can. -/
theorem isUnusable_resourcePath (resource' : Resource) :
    (s.resourcePath account resource').isUnusable
      = (s.resourcePath account resource).isUnusable := by
  have hname (r : Resource) : (Name.text r.fileName).size = 11
      ∧ (Name.text r.fileName).hasZero = false := by
    cases r <;> decide
  simp only [resourcePath, Path.ofTexts, List.map_cons, List.map_nil, Path.isUnusable, Path.size,
    Path.bytes_append, Path.bytes_cons, Path.bytes_nil, List.any_append, List.any_cons,
    List.any_nil, hname]

/-- **A list has a token along a name that is too long** if nothing is there at all. -/
theorem look_of_long (hlong : ¬(s.accountPath account).IsShort)
    (ht : s.resourceToken account resource d = .ok t) :
    (s.resourcePath account resource).isUnusable = false
      ∧ d.look (s.accountPath account) = .error .notFound := by
  have hno (p : Path) (hp : ¬p.IsShort) (i : Inode) : d.look p ≠ .ok i :=
    fun h => hp (Disk.isShort_of_look h)
  have hlong' : ¬(s.resourcePath account resource).IsShort :=
    fun h => hlong (Path.isShort_append.1 h).1
  have hlook : d.look (s.resourcePath account resource) = .error .notFound := by
    rw [resourceToken, token_eq_look] at ht
    split at ht
    case h_1 i hi => exact absurd hi (hno _ hlong' i)
    case h_2 h => exact h
    case h_3 => cases ht
  have husable : (s.resourcePath account resource).isUnusable = false := by
    by_contra hp
    rw [Bool.not_eq_false] at hp
    rw [Disk.look_of_unusable hp] at hlook
    cases hlook
  refine ⟨husable, ?_⟩
  rw [resourcePath_eq] at husable hlook
  rw [Disk.look_concat husable] at hlook
  rcases haccount : d.look (s.accountPath account) with fault | i
  · rw [haccount] at hlook
    exact hlook
  · exact absurd haccount (hno _ hlong i)

/-- **Nothing is stored** for an account along a name that is too long, if a list has a token. -/
theorem look_resource_of_long (hlong : ¬(s.accountPath account).IsShort)
    (ht : s.resourceToken account resource d = .ok t) (resource' : Resource) :
    d.look (s.resourcePath account resource') = .error .notFound := by
  obtain ⟨husable, hlook⟩ := look_of_long hlong ht
  rw [← isUnusable_resourcePath resource', resourcePath_eq] at husable
  rw [resourcePath_eq, Disk.look_concat husable, hlook]
  rfl

/-- **A list with a token has short names on its way**, once there is a directory of accounts. -/
theorem isShort_of_resourceToken (hd : d.HasDirectory s.accountsPath)
    (ht : s.resourceToken account resource d = .ok t) : (s.accountPath account).IsShort := by
  by_contra hlong
  obtain ⟨husable, hlook⟩ := look_of_long hlong ht
  have husable' : (s.accountPath account).isUnusable = false := Disk.isUnusable_of_append husable
  obtain ⟨m, hm⟩ := hd
  rw [accountPath_eq] at husable' hlook
  rw [Disk.look_concat husable', Disk.look_of_usable (Disk.isUnusable_of_append husable'),
    Entry.look_of_view hm] at hlook
  by_cases hs : s.accountsPath.any Name.isTooLong
  · rw [if_pos hs] at hlook
    cases hlook
  · -- The directory of accounts can be looked at, so it is the name of the account that is long.
    rw [if_neg hs] at hlook
    have haccount : (Name.text account.text).isTooLong = true := by
      by_contra hname
      refine hlong (Path.isShort_append.2 ⟨fun n hn => ?_, ?_⟩)
      · rw [Bool.not_eq_true, List.any_eq_false] at hs
        exact Bool.not_eq_true _ ▸ hs n hn
      · simpa [Path.IsShort, Path.ofTexts] using hname
    simp [Except.bind, haccount] at hlook

end

end Store

end SpeakerHub
