import SpeakerHub.Proofs.Remote.AddressScan

/-! # Hosts without their ports

The host of a speaker's shell is the host of its web service without the port. Two rules decide
whether there is one: an address with a port is cut at its last colon and loses its brackets, and
a name is cut there if what follows is a port. An address of eight numbers ends in what could be a
port. It is kept, since it has two colons, so a colon is left in front of the last one.

* **`splitAtLastColon?_append`** — where a text is cut.
* **`sshHost_append`** — the two rules, on a text that is cut.
* **`sshHost_zoned`**, **`sshHost_bracketed`**, **`sshHost_named`** — which hosts are kept, and
  which lose a port.
* **`ports_never_change_hosts`** — a port in addition never changes the host. -/

namespace SpeakerHub

open SocketAddress

/-! ## The last colon -/

section

variable {text front port : List Char}

/-- A text is cut at its last colon. -/
theorem splitAtLastColon?_append (h : ':' ∉ port) :
    splitAtLastColon? (front ++ ':' :: port) = some (front, port) := by
  have hreverse : (front ++ ':' :: port).reverse = port.reverse ++ ':' :: front.reverse := by simp
  have hport : ∀ c ∈ port.reverse, (c != ':') = true := by
    intro c hc
    rw [bne_iff_ne]
    rintro rfl
    exact h (List.mem_reverse.1 hc)
  rw [splitAtLastColon?, hreverse, List.dropWhile_append_of_pos hport,
    List.takeWhile_append_of_pos hport]
  simp

/-- A text without a colon is not cut. -/
theorem splitAtLastColon?_of_not_mem (h : ':' ∉ text) : splitAtLastColon? text = none := by
  have hdrop : text.reverse.dropWhile (· != ':') = [] := by
    rw [List.dropWhile_eq_nil_iff]
    intro c hc
    rw [bne_iff_ne]
    rintro rfl
    exact h (List.mem_reverse.1 hc)
  rw [splitAtLastColon?, hdrop]

/-- A text with a colon has a last one. -/
theorem exists_lastColon (h : ':' ∈ text) :
    ∃ front port, text = front ++ ':' :: port ∧ ':' ∉ port := by
  obtain ⟨behind, front, htext, hbehind⟩ := List.eq_append_cons_of_mem (List.mem_reverse.2 h)
  refine ⟨front.reverse, behind.reverse, ?_, fun hmem => hbehind (List.mem_reverse.1 hmem)⟩
  rw [← List.reverse_reverse text, htext]
  simp

/-- There is only one last colon. -/
theorem lastColon_inj {front' port' : List Char} (hport : ':' ∉ port) (hport' : ':' ∉ port')
    (h : front ++ ':' :: port = front' ++ ':' :: port') : front = front' ∧ port = port' := by
  have hcut : splitAtLastColon? (front ++ ':' :: port) = some (front, port) :=
    splitAtLastColon?_append hport
  rw [h, splitAtLastColon?_append hport'] at hcut
  obtain ⟨rfl, rfl⟩ := Prod.mk.inj (Option.some.inj hcut)
  exact ⟨rfl, rfl⟩

/-! ## Brackets -/

/-- Nothing is dropped in front of a text that does not have the character. -/
theorem dropWhile_of_not_mem {c : Char} (h : c ∉ text) : text.dropWhile (· == c) = text := by
  cases text with
  | nil => rfl
  | cons d text =>
    have hne : d ≠ c := fun heq => h (heq ▸ List.mem_cons_self)
    exact List.dropWhile_cons_of_neg (mt beq_iff_eq.1 hne)

/-- A text without brackets has none to lose. -/
theorem withoutBrackets_of_not_mem (h : ∀ c ∈ text, c ≠ '[' ∧ c ≠ ']') :
    withoutBrackets text = text := by
  have hopen : '[' ∉ text := fun hmem => (h _ hmem).1 rfl
  have hclose : ']' ∉ text.reverse := fun hmem => (h _ (List.mem_reverse.1 hmem)).2 rfl
  rw [withoutBrackets, dropWhile_of_not_mem hopen, dropWhile_of_not_mem hclose,
    List.reverse_reverse]

/-- A text in brackets loses them. -/
theorem withoutBrackets_bracketed (h : ∀ c ∈ text, c ≠ '[' ∧ c ≠ ']') :
    withoutBrackets ('[' :: (text ++ [']'])) = text := by
  have hopen : '[' ∉ text ++ [']'] := by
    rw [List.mem_append, List.mem_singleton]
    rintro (hmem | hbracket)
    · exact (h _ hmem).1 rfl
    · cases hbracket
  have hclose : ']' ∉ text.reverse := fun hmem => (h _ (List.mem_reverse.1 hmem)).2 rfl
  rw [withoutBrackets, List.dropWhile_cons_of_pos rfl, dropWhile_of_not_mem hopen,
    List.reverse_append, List.reverse_singleton, List.singleton_append,
    List.dropWhile_cons_of_pos rfl, dropWhile_of_not_mem hclose, List.reverse_reverse]

/-! ## Addresses with ports -/

/-- There is no colon in a number. -/
theorem SocketAddress.IsNumber.colon_not_mem {bound : Nat} (h : IsNumber bound port) :
    ':' ∉ port := by
  intro hmem
  cases h.isDigit_of_mem _ hmem

/-- There is no colon in an address of four numbers, and no bracket. -/
theorem SocketAddress.IsIpv4.not_mem (h : IsIpv4 text) :
    ∀ c ∈ text, c ≠ ':' ∧ c ≠ '[' ∧ c ≠ ']' := by
  intro c hc
  have hnumeric := h.isNumeric_of_mem c hc
  refine ⟨?_, ?_, ?_⟩ <;> rintro rfl <;> cases hnumeric

/-- What is in front of the last colon is an address of four numbers, or one of eight in
brackets. -/
theorem SocketAddress.IsSocketAddress.cut (h : IsSocketAddress (front ++ ':' :: port))
    (hport : ':' ∉ port) :
    IsIpv4 front ∨ ∃ a, IsZoned a ∧ front = '[' :: (a ++ [']']) := by
  generalize htext : front ++ ':' :: port = text at h
  cases h with
  | ipv4 ha hnumber =>
    obtain ⟨rfl, rfl⟩ := lastColon_inj hport hnumber.colon_not_mem htext
    exact .inl ha
  | zoned ha hnumber =>
    obtain ⟨rfl, rfl⟩ := lastColon_inj hport hnumber.colon_not_mem htext
    exact .inr ⟨_, ha, rfl⟩

end

/-! ## Hosts of shells -/

section

variable {a front port : List Char}

/-- A host without a colon is kept. -/
theorem sshHost_of_not_mem {host : String} (h : ':' ∉ host.toList) : sshHost host = host := by
  rw [sshHost, splitAtLastColon?_of_not_mem h]

/-- **A host with a colon** is cut at the last one if it is an address with a port, or a name
with a port. -/
theorem sshHost_append (hport : ':' ∉ port) :
    sshHost (String.ofList (front ++ ':' :: port))
      = if IsSocketAddress (front ++ ':' :: port) then String.ofList (withoutBrackets front)
        else if ':' ∉ front ∧ (Numeral.unsigned? UInt16.size (String.ofList port)).isSome then
          String.ofList front
        else String.ofList (front ++ ':' :: port) := by
  rw [sshHost, String.toList_ofList, splitAtLastColon?_append hport]
  have haddress : (SocketAddress.scan.all? (front ++ ':' :: port)).isSome
      ↔ IsSocketAddress (front ++ ':' :: port) := by
    rw [Option.isSome_iff_exists, ← all?_scan_iff]
    exact ⟨fun ⟨_, h⟩ => h, fun h => ⟨(), h⟩⟩
  simp only [haddress, List.contains_iff_mem]

/-- **A name with a port** loses the port, and so does an address of four numbers. -/
theorem sshHost_named (hfront : ':' ∉ front) (hport : ':' ∉ port)
    (hnumber : (Numeral.unsigned? UInt16.size (String.ofList port)).isSome) :
    sshHost (String.ofList (front ++ ':' :: port)) = String.ofList front := by
  rw [sshHost_append hport]
  split
  case isTrue haddress =>
    rcases haddress.cut hport with ha | ⟨a, ha, rfl⟩
    · rw [withoutBrackets_of_not_mem fun c hc => (ha.not_mem c hc).2]
    · exact absurd (List.mem_cons_of_mem _ (List.mem_append_left _ ha.colon_mem)) hfront
  case isFalse => rw [if_pos ⟨hfront, hnumber⟩]

/-- **An address of eight numbers is kept**, with its zone. -/
theorem sshHost_zoned (ha : IsZoned a) : sshHost (String.ofList a) = String.ofList a := by
  have hcount := ha.two_le_count
  obtain ⟨front, port, rfl, hport⟩ := exists_lastColon ha.colon_mem
  -- There is another colon in front of the last one.
  have hfront : ':' ∈ front := by
    rw [List.count_append, List.count_cons_self, List.count_eq_zero_of_not_mem hport] at hcount
    exact List.count_pos_iff.1 (by omega)
  have haddress : ¬IsSocketAddress (front ++ ':' :: port) := by
    intro h
    rcases h.cut hport with hfour | ⟨inside, -, rfl⟩
    · exact (hfour.not_mem _ hfront).1 rfl
    · exact (ha.not_bracket '[' List.mem_cons_self).1 rfl
  rw [sshHost_append hport, if_neg haddress, if_neg fun h => h.1 hfront]

/-- **An address in brackets with a port** loses both. -/
theorem sshHost_bracketed (ha : IsZoned a) (hport : IsNumber UInt16.size port) :
    sshHost (String.ofList ('[' :: (a ++ [']']) ++ ':' :: port)) = String.ofList a := by
  rw [sshHost_append hport.colon_not_mem, if_pos (.zoned ha hport),
    withoutBrackets_bracketed ha.not_bracket]

/-- **What is left has no port to lose.** -/
theorem sshHost_sshHost (host : String) : sshHost (sshHost host) = sshHost host := by
  by_cases hcolon : ':' ∈ host.toList
  · obtain ⟨front, port, htext, hport⟩ := exists_lastColon hcolon
    obtain rfl : host = String.ofList (front ++ ':' :: port) := by
      rw [← htext, String.ofList_toList]
    have hname (h : ':' ∉ front) : sshHost (String.ofList front) = String.ofList front :=
      sshHost_of_not_mem (by rwa [String.toList_ofList])
    rw [sshHost_append hport]
    split
    case isTrue haddress =>
      rcases haddress.cut hport with ha | ⟨a, ha, rfl⟩
      · rw [withoutBrackets_of_not_mem fun c hc => (ha.not_mem c hc).2]
        exact hname fun hmem => (ha.not_mem _ hmem).1 rfl
      · rw [withoutBrackets_bracketed ha.not_bracket]
        exact sshHost_zoned ha
    case isFalse haddress =>
      split
      case isTrue hnamed => exact hname hnamed.1
      case isFalse hother => rw [sshHost_append hport, if_neg haddress, if_neg hother]
  · rw [sshHost_of_not_mem hcolon, sshHost_of_not_mem hcolon]

end

/-! ## Hosts with ports -/

/-- **A host as it is given without a port**: an address or a name. -/
inductive IsBareHost : String → Prop where
  /-- An address of four numbers. -/
  | ipv4 {a : List Char} (ha : IsIpv4 a) : IsBareHost (String.ofList a)
  /-- An address of eight numbers, maybe with a zone. -/
  | ipv6 {a : List Char} (ha : IsZoned a) : IsBareHost (String.ofList a)
  /-- A name, which has no colon. -/
  | name {host : String} (hname : ':' ∉ host.toList) : IsBareHost host

/-- A host with a port. An address of eight numbers is told from its port by brackets. -/
def withPort (host : String) (port : Nat) : String :=
  if ':' ∈ host.toList then "[" ++ host ++ "]:" ++ Nat.repr port else host ++ ":" ++ Nat.repr port

section

variable {host : String} {port : Nat}

/-- A port is written behind a name. -/
theorem withPort_of_not_mem (h : ':' ∉ host.toList) (port : Nat) :
    withPort host port = String.ofList (host.toList ++ ':' :: Nat.toDigits 10 port) := by
  rw [withPort, if_neg h, ← String.toList_inj]
  simp

/-- A port is written behind brackets. -/
theorem withPort_of_mem (h : ':' ∈ host.toList) (port : Nat) : withPort host port
    = String.ofList ('[' :: (host.toList ++ [']']) ++ ':' :: Nat.toDigits 10 port) := by
  rw [withPort, if_pos h, ← String.toList_inj]
  simp

/-- What is written as an address of eight numbers is given as one. -/
theorem IsBareHost.of_isZoned (h : IsZoned host.toList) : IsBareHost host := by
  rw [← String.ofList_toList (s := host)]
  exact .ipv6 h

/-- An address or a name with a colon is an address of eight numbers. -/
theorem IsBareHost.isZoned (h : IsBareHost host) (hcolon : ':' ∈ host.toList) :
    IsZoned host.toList := by
  cases h with
  | ipv4 ha =>
    rw [String.toList_ofList] at hcolon
    exact absurd rfl (ha.not_mem _ hcolon).1
  | ipv6 ha => rwa [String.toList_ofList]
  | name hname => exact absurd hcolon hname

/-- **An address or a name is kept.** -/
theorem sshHost_of_isBareHost (h : IsBareHost host) : sshHost host = host := by
  by_cases hcolon : ':' ∈ host.toList
  · have hkept := sshHost_zoned (h.isZoned hcolon)
    rwa [String.ofList_toList] at hkept
  · exact sshHost_of_not_mem hcolon

/-- **An address or a name loses a port** that it is given with. -/
theorem sshHost_withPort (h : IsBareHost host) (hport : port < UInt16.size) :
    sshHost (withPort host port) = host := by
  by_cases hcolon : ':' ∈ host.toList
  · have hnumber : IsNumber UInt16.size (Nat.toDigits 10 port) :=
      ⟨port, hport, Numeral.natural?_toDigits port⟩
    rw [withPort_of_mem hcolon, sshHost_bracketed (h.isZoned hcolon) hnumber,
      String.ofList_toList]
  · have hnumber : Numeral.unsigned? UInt16.size (String.ofList (Nat.toDigits 10 port))
        = some port := by
      rw [← Nat.repr_eq_ofList_toDigits, Numeral.unsigned?_repr hport]
    rw [withPort_of_not_mem hcolon, sshHost_named hcolon (Numeral.not_mem_toDigits port rfl)
      (Option.isSome_of_eq_some hnumber), String.ofList_toList]

end

/-- **A port never changes the host.** An address or a name is the host of its shell, without a
port and with any. Of any text, what is left of it is left as it is. -/
theorem ports_never_change_hosts :
    (∀ host, IsBareHost host →
      sshHost host = host ∧ ∀ port < UInt16.size, sshHost (withPort host port) = host)
      ∧ ∀ text, sshHost (sshHost text) = sshHost text := by
  refine ⟨fun host hbare => ⟨sshHost_of_isBareHost hbare, ?_⟩, sshHost_sshHost⟩
  intro port hport
  exact sshHost_withPort hbare hport

/-- An address that ends in what could be a port is kept, and so it is with a zone and a port behind
it. -/
theorem address_that_ends_like_a_port :
    IsBareHost "fe80::1:8090%3" ∧ 8090 < UInt16.size
      ∧ sshHost "fe80::1:8090%3" = "fe80::1:8090%3"
      ∧ sshHost "[fe80::1:8090%3]:8090" = "fe80::1:8090%3" := by
  have haddress : IsZoned "fe80::1:8090%3".toList :=
    ⟨"fe80::1:8090".toList, "%3".toList, by decide,
      .inr ⟨['3'], ⟨3, by decide, by decide⟩, by decide⟩, by decide⟩
  have hbare : IsBareHost "fe80::1:8090%3" := .of_isZoned haddress
  obtain ⟨hkept, hport⟩ := ports_never_change_hosts.1 _ hbare
  have hwith : withPort "fe80::1:8090%3" 8090 = "[fe80::1:8090%3]:8090" := by decide
  exact ⟨hbare, by decide, hkept, hwith ▸ hport 8090 (by decide)⟩

end SpeakerHub
