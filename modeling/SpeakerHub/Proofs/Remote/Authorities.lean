import SpeakerHub.Proofs.Remote.Hosts
import SpeakerHub.Speaker

/-! # Whom a web address names

A web address names a host and a port between its scheme and its path. A speaker is asked who it is
under the host that it is known by, and its shell is reached at this host without its port. Both are
the same machine, except that an address of eight numbers is asked without brackets and without a
port, which is no web address.

* **`Authority.ofUrl?`** — the host and the port that a web address names, read by its grammar.
* **`Authority.ofUrl?_url`** — a web address names what it is written for.
* **`Authority.ofUrl?_of_isIpv6`** — an address of eight numbers without brackets names nothing.
* **`identity_queries_follow_hosts`** — which machine is asked;
  **`bare_address_is_not_asked`** — one that is not. -/

namespace SpeakerHub

open SocketAddress

/-- A host and a port. -/
structure Authority where
  /-- The host, without brackets. -/
  host : String
  /-- The port. -/
  port : Nat
  deriving DecidableEq

namespace Authority

open Scan

/-- The address under which a host describes itself at a port. -/
def url (a : Authority) : String :=
  "http://" ++ withPort a.host a.port ++ "/info"

/-! ## Reading -/

/-- A character of a name in a web address. The others divide its parts, or have to be escaped. -/
def isNameChar (c : Char) : Bool :=
  c.isAlphanum || "-._~!$&\x27()*+,;=".toList.contains c

/-- The host of a web address: an address of eight numbers in brackets, or a name, which may be an
address of four numbers. -/
def scanHost : Scan String := do
  if ← accept "[" then
    let address ← takeWhile (· != ']')
    expect "]"
    if IsIpv6 address then return String.ofList address
    else failure
  else return String.ofList (← takeWhile isNameChar)

/-- The port of a web address, which is 80 if it is left out. -/
def scanPort : Scan Nat := do
  if ← accept ":" then
    let digits ← takeWhile Char.isDigit
    if digits.isEmpty then return 80
    else Numeral.natural? 10 digits
  else return 80

/-- A host and a port behind the scheme, with nothing more in front of the path. -/
def scan : Scan Authority := do
  expect "http://"
  let host ← scanHost
  let port ← scanPort
  if (← peek?).all (['/', '?', '#'].contains ·) then return { host, port }
  else failure

/-- **What a web address names**, if it is one. -/
def ofUrl? (url : String) : Option Authority :=
  (scan.run url.toList).map Prod.fst

example : ofUrl? "http://speaker.local/info" = some { host := "speaker.local", port := 80 } := by
  decide

/-- **A host that can stand in a web address**: a name without other characters, or an address. -/
def IsUrlHost (host : String) : Prop :=
  (∀ c ∈ host.toList, isNameChar c = true) ∨ IsIpv6 host.toList

section

variable {rest : List Char}

/-- The characters of an address of four numbers are those of a name. -/
theorem isNameChar_of_isNumeric {c : Char} (h : isNumeric c = true) : isNameChar c = true := by
  rw [isNameChar, Bool.or_eq_true]
  rcases Bool.or_eq_true_iff.1 h with hhex | hpoint
  · left
    rw [isHex, Numeral.digit?] at hhex
    show (c.isAlpha || c.isDigit) = true
    rw [Bool.or_eq_true]
    -- The letters among the digits are the first ones of all letters.
    split at hhex
    case isTrue hdigit =>
      right
      exact Bool.and_eq_true_iff.2 ⟨decide_eq_true hdigit.1, decide_eq_true hdigit.2⟩
    case isFalse =>
      left
      split at hhex
      case isTrue hlower =>
        have hlast : c.val ≤ 'z'.val := UInt32.le_trans hlower.2 (by decide)
        exact Bool.or_eq_true_iff.2 (.inr
          (Bool.and_eq_true_iff.2 ⟨decide_eq_true hlower.1, decide_eq_true hlast⟩))
      case isFalse =>
        split at hhex
        case isTrue hupper =>
          have hlast : c.val ≤ 'Z'.val := UInt32.le_trans hupper.2 (by decide)
          exact Bool.or_eq_true_iff.2 (.inl (decide_eq_true ⟨hupper.1, hlast⟩))
        case isFalse => cases hhex
  · right
    rw [beq_iff_eq.1 hpoint]
    decide

/-- A name is read up to a colon. -/
theorem run_scanHost_name {name : List Char} (hname : ∀ c ∈ name, isNameChar c = true) :
    scanHost.run (name ++ ':' :: rest) = some (String.ofList name, ':' :: rest) := by
  have hbracket : ¬"[".toList <+: name ++ ':' :: rest := by
    rintro ⟨more, hmore⟩
    cases name with
    | nil => cases (List.cons.inj hmore).1
    | cons c name =>
      have hc := hname c List.mem_cons_self
      rw [← (List.cons.inj hmore).1] at hc
      cases hc
  rw [scanHost, run_bind_eq_some_iff]
  refine ⟨false, _, run_accept_eq_some_iff.2 (.inr ⟨rfl, rfl, hbracket⟩), ?_⟩
  rw [if_neg nofun, run_bind_eq_some_iff]
  exact ⟨name, _, run_takeWhile_eq_some_iff.2 ⟨rfl, hname, ends_cons.2 rfl⟩, rfl⟩

/-- An address of eight numbers is read up to its bracket. -/
theorem run_scanHost_address {a : List Char} (ha : IsIpv6 a) :
    scanHost.run ('[' :: (a ++ ']' :: rest)) = some (String.ofList a, rest) := by
  have hclose : ∀ c ∈ a, (c != ']') = true := by
    intro c hc
    rw [bne_iff_ne]
    rintro rfl
    cases ha.isPart_of_mem _ hc
  rw [scanHost, run_bind_eq_some_iff]
  refine ⟨true, a ++ ']' :: rest, run_accept_eq_some_iff.2 (.inl ⟨rfl, rfl⟩), ?_⟩
  rw [if_pos rfl, run_bind_eq_some_iff]
  refine ⟨a, ']' :: rest, run_takeWhile_eq_some_iff.2 ⟨rfl, hclose, ends_cons.2 rfl⟩, ?_⟩
  rw [run_bind_eq_some_iff]
  refine ⟨(), rest, run_expect_eq_some_iff.2 rfl, ?_⟩
  rw [if_pos ha]
  rfl

/-- A port is read up to the last of its digits. -/
theorem run_scanPort (port : Nat) (hrest : Ends Char.isDigit rest) :
    scanPort.run (':' :: (Nat.toDigits 10 port ++ rest)) = some (port, rest) := by
  have hdigits : ∀ c ∈ Nat.toDigits 10 port, c.isDigit = true := fun c hc =>
    Nat.isDigit_of_mem_toDigits (by decide) (by decide) hc
  rw [scanPort, run_bind_eq_some_iff]
  refine ⟨true, _, run_accept_eq_some_iff.2 (.inl ⟨rfl, rfl⟩), ?_⟩
  rw [if_pos rfl, run_bind_eq_some_iff]
  refine ⟨_, rest, run_takeWhile_eq_some_iff.2 ⟨rfl, hdigits, hrest⟩, ?_⟩
  rw [if_neg (mt List.isEmpty_iff.1 Nat.toDigits_ne_nil), run_lift_eq_some_iff]
  exact ⟨Numeral.natural?_toDigits port, rfl⟩

/-- A host with a port in front of the path is read. -/
theorem ofUrl?_of_run {text : List Char} {a : Authority}
    (h : scanHost.run text
      = some (a.host, ':' :: (Nat.toDigits 10 a.port ++ "/info".toList))) :
    ofUrl? (String.ofList ("http://".toList ++ text)) = some a := by
  have hscan : scan.run ("http://".toList ++ text) = some (a, "/info".toList) := by
    simp only [scan, run_bind_eq_some_iff]
    exact ⟨(), text, run_expect_eq_some_iff.2 rfl, a.host, _, h, a.port, _,
      run_scanPort a.port (ends_cons.2 rfl), some '/', _, rfl, rfl⟩
  rw [ofUrl?, String.toList_ofList, hscan, Option.map_some]

/-- **A web address names what it is written for.** -/
theorem ofUrl?_url {a : Authority} (h : IsUrlHost a.host) : ofUrl? a.url = some a := by
  rcases h with hname | haddress
  · have hnot : ':' ∉ a.host.toList := fun hmem => by
      cases hname _ hmem
    have hurl : a.url = String.ofList ("http://".toList
        ++ (a.host.toList ++ ':' :: (Nat.toDigits 10 a.port ++ "/info".toList))) := by
      rw [url, withPort_of_not_mem hnot, ← String.toList_inj]
      simp
    rw [hurl]
    apply ofUrl?_of_run
    rw [run_scanHost_name hname, String.ofList_toList]
  · have hurl : a.url = String.ofList ("http://".toList
        ++ '[' :: (a.host.toList ++ ']' :: ':' :: (Nat.toDigits 10 a.port ++ "/info".toList))) := by
      rw [url, withPort_of_mem haddress.colon_mem, ← String.toList_inj]
      simp
    rw [hurl]
    apply ofUrl?_of_run
    rw [run_scanHost_address haddress, String.ofList_toList]

/-- A port is read no farther than up to a colon. -/
theorem exists_behind_port {text behind : List Char} {port : Nat} (hcolon : ':' ∈ text)
    (h : scanPort.run (':' :: (text ++ behind)) = some (port, rest)) :
    ∃ c more, c ∈ text ∧ rest = c :: more := by
  have hdigits : ∃ digits, (takeWhile Char.isDigit).run (text ++ behind) = some (digits, rest) := by
    obtain ⟨found, _, haccept, h⟩ := run_bind_eq_some_iff.1 h
    rcases run_accept_eq_some_iff.1 haccept with ⟨rfl, htext⟩ | ⟨-, -, hnot⟩
    · rw [List.cons.inj htext |>.2]
      rw [if_pos rfl, run_bind_eq_some_iff] at h
      obtain ⟨digits, middle, hdigits, h⟩ := h
      refine ⟨digits, ?_⟩
      split at h
      case isTrue =>
        rwa [(run_pure_eq_some_iff.1 h).2] at hdigits
      case isFalse =>
        rwa [(run_lift_eq_some_iff.1 h).2] at hdigits
    · exact absurd ⟨_, rfl⟩ hnot
  obtain ⟨digits, hdigits⟩ := hdigits
  obtain ⟨htext, hdigit, -⟩ := run_takeWhile_eq_some_iff.1 hdigits
  have hnot : ':' ∉ digits := fun hmem => by
    cases hdigit _ hmem
  rcases List.append_eq_append_iff.1 htext with ⟨more, rfl, -⟩ | ⟨more, rfl, rfl⟩
  · exact absurd (List.mem_append_left _ hcolon) hnot
  · cases more with
    | nil => exact absurd (by simpa using hcolon) hnot
    | cons c more => exact ⟨c, _, List.mem_append_right _ List.mem_cons_self, rfl⟩

/-- **An address of eight numbers names nothing without brackets.** What is behind its first colon
is no port. -/
theorem ofUrl?_of_isIpv6 {host : String} (h : IsIpv6 host.toList) :
    ofUrl? ("http://" ++ host ++ "/info") = none := by
  have hcount := h.two_le_count
  obtain ⟨front, back, htext, hfront⟩ := List.eq_append_cons_of_mem h.colon_mem
  rw [htext, List.count_append, List.count_cons_self,
    List.count_eq_zero_of_not_mem hfront] at hcount
  have hback : ':' ∈ back := List.count_pos_iff.1 (by omega)
  have hpart : ∀ c ∈ front ++ ':' :: back, isPart c = true := htext ▸ h.isPart_of_mem
  have hname : ∀ c ∈ front, isNameChar c = true := by
    intro c hc
    rcases Bool.or_eq_true_iff.1 (hpart c (List.mem_append_left _ hc)) with hnumeric | heq
    · exact isNameChar_of_isNumeric hnumeric
    · exact absurd (beq_iff_eq.1 heq ▸ hc) hfront
  have hhost : scanHost.run (front ++ ':' :: (back ++ "/info".toList))
      = some (String.ofList front, ':' :: (back ++ "/info".toList)) :=
    run_scanHost_name hname
  have hurl : ("http://" ++ host ++ "/info").toList
      = "http://".toList ++ (front ++ ':' :: (back ++ "/info".toList)) := by
    simp [htext]
  rw [ofUrl?, hurl, Option.map_eq_none_iff, Option.eq_none_iff_forall_ne_some]
  rintro ⟨a, rest⟩ hscan
  simp only [scan, run_bind_eq_some_iff, run_expect_eq_some_iff,
    List.append_cancel_left_eq] at hscan
  obtain ⟨-, text, rfl, host', text', hhost', port, rest', hport, next?, rest'', hnext, hend⟩ :=
    hscan
  rw [hhost] at hhost'
  cases hhost'
  cases hnext
  obtain ⟨c, behind, hc, rfl⟩ := exists_behind_port hback hport
  -- What follows is still of the address, and ends no port.
  split at hend
  case isTrue hnext =>
    have hc := hpart c (List.mem_append_right _ (List.mem_cons_of_mem _ hc))
    have hmem : c ∈ ['/', '?', '#'] := List.contains_iff_mem.1 hnext
    simp only [List.mem_cons, List.not_mem_nil, or_false] at hmem
    rcases hmem with rfl | rfl | rfl <;> cases hc
  case isFalse => cases hend

end

end Authority

/-! ## Asking -/

section

variable {host : String}

/-- A name is asked at the port that speakers have. -/
theorem Speaker.infoUrl_of_not_mem (h : ':' ∉ host.toList) :
    Speaker.infoUrl host = Authority.url { host, port := 8090 } := by
  have hshown : ":8090" = ":" ++ Nat.repr 8090 := by decide
  have hplace : host ++ ":8090" = host ++ ":" ++ Nat.repr 8090 := by
    rw [String.append_assoc, ← hshown]
  have hasked : Speaker.infoUrl host = "http://" ++ (host ++ ":8090") ++ "/info" :=
    congrArg ("http://" ++ · ++ "/info") (if_neg (mt List.contains_iff_mem.1 h))
  rw [hasked, Authority.url, withPort, if_neg h, hplace]

/-- A host with a colon is taken for one with a port. -/
theorem Speaker.infoUrl_of_mem (h : ':' ∈ host.toList) :
    Speaker.infoUrl host = "http://" ++ host ++ "/info" :=
  congrArg ("http://" ++ · ++ "/info") (if_pos (List.contains_iff_mem.2 h))

/-- A host with a port is asked there. -/
theorem Speaker.infoUrl_withPort (host : String) (port : Nat) :
    Speaker.infoUrl (withPort host port) = Authority.url { host, port } := by
  have hcolon : ':' ∈ (withPort host port).toList := by
    by_cases h : ':' ∈ host.toList
    · simp [withPort_of_mem h]
    · simp [withPort_of_not_mem h]
  rw [Speaker.infoUrl_of_mem hcolon, Authority.url]

/-- So an address of eight numbers is asked nowhere. -/
theorem Speaker.infoUrl_ne_of_mem (h : ':' ∈ host.toList) :
    Speaker.infoUrl host ≠ Authority.url { host, port := 8090 } := by
  intro heq
  have hlength := congrArg String.length heq
  rw [Speaker.infoUrl_of_mem h, Authority.url, withPort_of_mem h] at hlength
  have hbracket : "[".length = 1 := by decide
  simp only [String.length_append, String.length_ofList, List.length_append, List.length_cons,
    String.length_toList] at hlength
  omega

end

/-- **A speaker is asked at the host of its shell**, at the port that it is given with. Without a
port it is asked at the port that all speakers have, unless its host is an address of eight numbers,
which then stands in no web address. -/
theorem identity_queries_follow_hosts {host : String} (hbare : IsBareHost host) (port : Nat) :
    Speaker.infoUrl (withPort host port) = Authority.url { host := sshHost host, port }
      ∧ (Speaker.infoUrl host = Authority.url { host := sshHost host, port := 8090 }
        ↔ ':' ∉ host.toList)
      ∧ (Authority.IsUrlHost host →
        Authority.ofUrl? (Speaker.infoUrl (withPort host port))
            = some { host := sshHost host, port }
          ∧ Authority.ofUrl? (Speaker.infoUrl host)
            = if ':' ∈ host.toList then none else some { host := sshHost host, port := 8090 }) := by
  rw [sshHost_of_isBareHost hbare, Speaker.infoUrl_withPort]
  refine ⟨rfl, ⟨fun heq hcolon => ?_, Speaker.infoUrl_of_not_mem⟩, fun hurl => ⟨?_, ?_⟩⟩
  · exact Speaker.infoUrl_ne_of_mem hcolon heq
  · exact Authority.ofUrl?_url hurl
  · split
    case isTrue hcolon =>
      rcases hurl with hname | haddress
      · cases hname _ hcolon
      · rw [Speaker.infoUrl_of_mem hcolon, Authority.ofUrl?_of_isIpv6 haddress]
    case isFalse hcolon =>
      rw [Speaker.infoUrl_of_not_mem hcolon]
      exact Authority.ofUrl?_url hurl

/-- An address is asked at the port that is given with it. -/
theorem address_is_asked_at_its_port :
    IsBareHost "fe80::1:8090" ∧ Authority.IsUrlHost "fe80::1:8090"
      ∧ sshHost "fe80::1:8090" = "fe80::1:8090"
      ∧ Speaker.infoUrl "[fe80::1:8090]:4000" = "http://[fe80::1:8090]:4000/info"
      ∧ Authority.ofUrl? (Speaker.infoUrl "[fe80::1:8090]:4000")
        = some { host := "fe80::1:8090", port := 4000 } := by
  have haddress : IsIpv6 "fe80::1:8090".toList := by decide
  have hbare : IsBareHost "fe80::1:8090" := .of_isZoned haddress.isZoned
  have hkept : sshHost "fe80::1:8090" = "fe80::1:8090" := by decide
  have hwith : withPort "fe80::1:8090" 4000 = "[fe80::1:8090]:4000" := by decide
  obtain ⟨hurl, -, hread⟩ := identity_queries_follow_hosts hbare 4000
  rw [hkept, hwith] at hurl hread
  exact ⟨hbare, .inr haddress, hkept, hurl.trans (by decide), (hread (.inr haddress)).1⟩

/-- **An address of eight numbers is not asked** without a port, although it is the host of a
shell: what it is asked under is no web address. -/
theorem bare_address_is_not_asked :
    IsBareHost "::1" ∧ Speaker.infoUrl "::1" = "http://::1/info"
      ∧ Authority.ofUrl? (Speaker.infoUrl "::1") = none
      ∧ Authority.url { host := sshHost "::1", port := 8090 } = "http://[::1]:8090/info"
      ∧ Speaker.infoUrl "::1" ≠ Authority.url { host := sshHost "::1", port := 8090 } := by
  have haddress : IsIpv6 "::1".toList := by decide
  have hbare : IsBareHost "::1" := .of_isZoned haddress.isZoned
  exact ⟨hbare, by decide, by decide, by decide, by decide⟩

end SpeakerHub
