import SpeakerHub.Proofs.Remote.AddressGrammar
import SpeakerHub.Proofs.Text.Scanning

/-! # The scan of addresses

An address is scanned from left to right. At every place where one may end an address of eight
numbers, an address of four is tried first, and what was read for it is given back if there is none.
All the same the scan accepts exactly the texts of the grammar: what it reads belongs to the
grammar, and it reads as much as it can, since what follows an address cannot be taken for more of
it.

* **`SocketAddress.run_ipv4_eq_some_iff`** — what is read as an address of four numbers.
* **`SocketAddress.groups_succ`**, **`run_groups_succ`** — one step over eight numbers;
  **`isGroups_of_run`** and **`run_groups_of_isGroups`** — all steps, by induction on the room that
  is left and on what is there.
* **`SocketAddress.all?_ipv6_iff`**, **`all?_scan_iff`** — what is accepted. -/

namespace SpeakerHub.SocketAddress

open Scan

variable {text rest : List Char} {u : Unit}

/-! ## Four numbers -/

/-- One of four numbers is scanned up to the last of its digits. -/
theorem run_octet_eq_some_iff :
    octet.run text = some (u, rest) ↔ ∃ n, text = shown n ++ rest ∧ Ends Char.isDigit rest := by
  simp only [octet, run_bind_eq_some_iff, run_takeWhile_eq_some_iff, run_lift_eq_some_iff]
  constructor
  · rintro ⟨digits, _, ⟨rfl, -, hends⟩, n, _, ⟨hn, rfl⟩, hcheck⟩
    split at hcheck
    case isTrue => cases hcheck
    case isFalse hrange =>
      obtain rfl := (run_pure_eq_some_iff.1 hcheck).2
      simp only [Bool.or_eq_true, Bool.and_eq_true, decide_eq_true_eq, beq_iff_eq] at hrange
      have hdigits : Nat.toDigits 10 n = digits := by
        apply Numeral.toDigits_of_natural? hn
        intro hzero
        have hpos : 0 < digits.length := by
          apply List.length_pos_iff.2
          rintro rfl
          cases hzero
        by_contra hmore
        exact hrange (.inr ⟨hzero, by omega⟩)
      have hlt : n < 256 := by omega
      refine ⟨UInt8.ofNat n, ?_, hends⟩
      rw [shown, UInt8.toNat_ofNat_of_lt' hlt, hdigits]
  · rintro ⟨n, rfl, hends⟩
    have hlt := n.toNat_lt
    have hlength : (shown n).length ≤ 3 :=
      (Nat.length_toDigits_le_iff (by decide) (by decide)).2 (by omega)
    refine ⟨shown n, rest, ⟨rfl, fun _ => isDigit_of_mem_shown, hends⟩, n.toNat, rest,
      ⟨Numeral.natural?_toDigits _, rfl⟩, ?_⟩
    rw [if_neg, run_pure_eq_some_iff]
    · exact ⟨rfl, rfl⟩
    · simp only [Bool.or_eq_true, Bool.and_eq_true, decide_eq_true_eq, beq_iff_eq]
      rintro ((hlong | hgreat) | ⟨hzero, hmore⟩)
      · omega
      · omega
      · rw [shown, Numeral.eq_zero_of_head?_toDigits hzero] at hmore
        exact absurd hmore (by decide)

/-- **An address of four numbers is scanned** up to the last of its digits. -/
theorem run_ipv4_eq_some_iff :
    ipv4.run text = some (u, rest)
      ↔ ∃ a, IsIpv4 a ∧ text = a ++ rest ∧ Ends Char.isDigit rest := by
  simp only [ipv4, run_bind_eq_some_iff, run_expect_eq_some_iff, run_octet_eq_some_iff]
  constructor
  · rintro ⟨_, _, ⟨a, rfl, -⟩, _, _, rfl, _, _, ⟨b, rfl, -⟩, _, _, rfl, _, _, ⟨c, rfl, -⟩,
      _, _, rfl, d, rfl, hends⟩
    refine ⟨_, ⟨a, b, c, d, rfl⟩, ?_, hends⟩
    simp [List.append_assoc]
  · rintro ⟨_, ⟨a, b, c, d, rfl⟩, rfl, hends⟩
    have hpoint (more : List Char) : Ends Char.isDigit ('.' :: more) := ends_cons.2 rfl
    simp only [List.append_assoc, List.cons_append]
    exact ⟨(), _, ⟨a, rfl, hpoint _⟩, (), _, rfl, (), _, ⟨b, rfl, hpoint _⟩, (), _, rfl,
      (), _, ⟨c, rfl, hpoint _⟩, (), _, rfl, d, rfl, hends⟩

/-! ## Eight numbers -/

/-- One of eight numbers is scanned up to the last of its digits. -/
theorem run_group_eq_some_iff :
    group.run text = some (u, rest) ↔ ∃ g, IsGroup g ∧ text = g ++ rest ∧ Ends isHex rest := by
  simp only [group, run_bind_eq_some_iff, run_takeWhile_eq_some_iff]
  constructor
  · rintro ⟨digits, _, ⟨rfl, hhex, hends⟩, hcheck⟩
    split at hcheck
    case isTrue => cases hcheck
    case isFalse hlength =>
      obtain rfl := (run_pure_eq_some_iff.1 hcheck).2
      simp only [Bool.or_eq_true, List.isEmpty_iff, decide_eq_true_eq, not_or,
        Nat.not_lt] at hlength
      exact ⟨digits, ⟨hlength.1, hlength.2, hhex⟩, rfl, hends⟩
  · rintro ⟨g, ⟨hne, hlength, hhex⟩, rfl, hends⟩
    refine ⟨g, rest, ⟨rfl, hhex, hends⟩, ?_⟩
    rw [if_neg, run_pure_eq_some_iff]
    · exact ⟨rfl, rfl⟩
    · simp only [Bool.or_eq_true, List.isEmpty_iff, decide_eq_true_eq, not_or, Nat.not_lt]
      exact ⟨hne, hlength⟩

/-! ### One step -/

/-- Scans what stands in front of a number, and something behind it. -/
def separated (isFirst : Bool) (s : Scan Unit) : Scan Unit :=
  (if isFirst then pure () else expect ":") *> s

/-- Something is scanned behind what stands in front of a number. -/
theorem run_separated_eq_some_iff {isFirst : Bool} {s : Scan Unit} :
    (separated isFirst s).run text = some (u, rest)
      ↔ ∃ middle, text = separator isFirst ++ middle ∧ s.run middle = some (u, rest) := by
  rw [separated, run_seqRight_eq_some_iff]
  cases isFirst with
  | true =>
    show (∃ _ _, (pure () : Scan Unit).run text = _ ∧ _) ↔ _
    simp [separator]
  | false =>
    show (∃ _ _, (expect ":").run text = _ ∧ _) ↔ _
    simp [run_expect_eq_some_iff, separator]

/-- Nothing is scanned behind what stands in front of a number if it cannot be scanned there. -/
theorem run_separated_eq_none {isFirst : Bool} {s : Scan Unit}
    (h : ∀ middle, text = separator isFirst ++ middle → s.run middle = none) :
    (separated isFirst s).run text = none := by
  rw [Option.eq_none_iff_forall_ne_some]
  rintro ⟨u, rest⟩ hrun
  obtain ⟨middle, htext, hs⟩ := run_separated_eq_some_iff.1 hrun
  rw [h middle htext] at hs
  cases hs

/-- The scan of numbers where no address of four numbers ends it: it goes on behind one number, or
ends if there is none. -/
def groupsBehind (left : Nat) (isFirst : Bool) : Scan (Nat × Bool) :=
  optional (separated isFirst group) >>= fun read? =>
    read?.elim (pure (0, false)) fun _ =>
      groups left false >>= fun found => pure (found.1 + 1, found.2)

/-- **One step of the scan.** If there is room for two numbers, an address of four numbers is looked
for first, and ends the scan. -/
theorem groups_succ (left : Nat) (isFirst : Bool) :
    groups (left + 1) isFirst
      = if 1 ≤ left then optional (separated isFirst ipv4) >>= fun read? =>
          read?.elim (groupsBehind left isFirst) fun _ => pure (2, true)
        else groupsBehind left isFirst := by
  rw [groups]
  by_cases hleft : 1 ≤ left
  · rw [if_pos hleft, if_pos hleft]
    refine bind_congr fun read? => ?_
    cases read? with
    | some => rfl
    | none => exact bind_congr fun read? => by cases read? <;> rfl
  · rw [if_neg hleft, if_neg hleft, pure_bind]
    exact bind_congr fun read? => by cases read? <;> rfl

/-- What one step leads to. -/
theorem run_groups_succ (left : Nat) (isFirst : Bool) (text : List Char) :
    (groups (left + 1) isFirst).run text
      = (if 1 ≤ left then (separated isFirst ipv4).run text else none).elim
        ((groupsBehind left isFirst).run text) fun read => some ((2, true), read.2) := by
  rw [groups_succ]
  by_cases hleft : 1 ≤ left
  · rw [if_pos hleft, if_pos hleft, run_optional_bind]
    rfl
  · rw [if_neg hleft, if_neg hleft]
    rfl

/-- What it leads to where there is no address of four numbers. -/
theorem run_groupsBehind (left : Nat) (isFirst : Bool) (text : List Char) :
    (groupsBehind left isFirst).run text
      = ((separated isFirst group).run text).elim (some ((0, false), text)) fun read =>
        ((groups left false).run read.2).map fun found =>
          ((found.1.1 + 1, found.1.2), found.2) := by
  rw [groupsBehind, run_optional_bind]
  cases (separated isFirst group).run text with
  | none => rfl
  | some read =>
    show ((groups left false).run read.2).bind _ = ((groups left false).run read.2).map _
    cases (groups left false).run read.2 <;> rfl

/-- **What is scanned are numbers**, no more than there is room for. -/
theorem isGroups_of_run {left count : Nat} {isFirst endsInIpv4 : Bool}
    (h : (groups left isFirst).run text = some ((count, endsInIpv4), rest)) :
    count ≤ left ∧ ∃ read, IsGroups isFirst count endsInIpv4 read ∧ text = read ++ rest := by
  induction left generalizing isFirst count text with
  | zero =>
    obtain ⟨heq, rfl⟩ := run_pure_eq_some_iff.1 h
    cases heq
    exact ⟨Nat.le_refl 0, [], .nil, rfl⟩
  | succ left ih =>
    rw [run_groups_succ] at h
    cases hfour : (if 1 ≤ left then (separated isFirst ipv4).run text else none) with
    | some read =>
      rw [hfour] at h
      cases h
      split at hfour
      case isTrue hleft =>
        obtain ⟨middle, rfl, hmiddle⟩ := run_separated_eq_some_iff.1 hfour
        obtain ⟨a, ha, rfl, -⟩ := run_ipv4_eq_some_iff.1 hmiddle
        exact ⟨Nat.succ_le_succ hleft, _, .ipv4 ha, (List.append_assoc _ _ _).symm⟩
      case isFalse => cases hfour
    | none =>
      rw [hfour, Option.elim_none, run_groupsBehind] at h
      cases hone : (separated isFirst group).run text with
      | none =>
        rw [hone] at h
        cases h
        exact ⟨Nat.zero_le _, [], .nil, rfl⟩
      | some read =>
        rw [hone] at h
        obtain ⟨⟨⟨more, _⟩, _⟩, hmore, heq⟩ := Option.map_eq_some_iff.1 h
        cases heq
        obtain ⟨middle, rfl, hmiddle⟩ := run_separated_eq_some_iff.1 hone
        obtain ⟨g, hg, rfl, -⟩ := run_group_eq_some_iff.1 hmiddle
        obtain ⟨hle, read, hread, hbehind⟩ := ih hmore
        refine ⟨Nat.succ_le_succ hle, _, .cons hg hread, ?_⟩
        rw [hbehind, List.append_assoc, List.append_assoc]

/-! ### What ends an address -/

/-- **Numbers are closed** by what cannot be taken for more of them: two colons, the end of the
text, or a character that no address has. -/
def Closes (rest : List Char) : Prop :=
  Ends isPart rest ∨ ∃ more, rest = ':' :: ':' :: more

/-- No number follows where numbers are closed, with a colon in front or without. -/
theorem Closes.ends {isFirst : Bool} {middle : List Char}
    (h : Closes (separator isFirst ++ middle)) : Ends isNumeric middle := by
  cases isFirst with
  | true =>
    rcases h with hends | ⟨more, hmore⟩
    · exact hends.mono fun _ => isPart_of_isNumeric
    · obtain rfl : middle = ':' :: ':' :: more := hmore
      exact ends_cons.2 rfl
  | false =>
    rcases h with hends | ⟨more, hmore⟩
    · cases ends_cons.1 hends
    · obtain rfl : middle = ':' :: more := (List.cons.inj hmore).2
      exact ends_cons.2 rfl

/-- No number stands right behind others that are closed. -/
theorem Closes.ends_self (h : Closes rest) : Ends isNumeric rest :=
  have hbehind : Closes (separator true ++ rest) := h
  hbehind.ends

/-- No number follows where other numbers do, or numbers are closed. -/
theorem IsGroups.ends_append {count : Nat} {endsInIpv4 : Bool} {more : List Char}
    (h : IsGroups false count endsInIpv4 more) (hrest : Closes rest) :
    Ends isNumeric (more ++ rest) := by
  cases h with
  | nil => exact hrest.ends_self
  | ipv4 => exact ends_cons.2 rfl
  | cons => exact ends_cons.2 rfl

/-- No address of four numbers begins with hexadecimal digits that no point follows. -/
theorem run_ipv4_of_hex {g tail : List Char} (hg : ∀ c ∈ g, isHex c = true)
    (htail : Ends isNumeric tail) : ipv4.run (g ++ tail) = none := by
  rw [Option.eq_none_iff_forall_ne_some]
  rintro ⟨u, rest⟩ hrun
  obtain ⟨_, ⟨a, b, c, d, rfl⟩, htext, -⟩ := run_ipv4_eq_some_iff.1 hrun
  -- The digits at the start are the given ones, but also those of the first number.
  have hgiven : (takeWhile isHex).run (g ++ tail) = some (g, tail) :=
    run_takeWhile_eq_some_iff.2 ⟨rfl, hg, htail.mono fun _ => isNumeric_of_isHex⟩
  have hfirst : ∃ more, (takeWhile isHex).run (g ++ tail) = some (shown a, '.' :: more) := by
    rw [htext, List.append_assoc]
    exact ⟨_, run_takeWhile_eq_some_iff.2
      ⟨rfl, fun c hc => isHex_of_isDigit (isDigit_of_mem_shown hc), ends_cons.2 rfl⟩⟩
  obtain ⟨more, hfirst⟩ := hfirst
  obtain ⟨-, rfl⟩ := Prod.mk.inj (Option.some.inj (hgiven.symm.trans hfirst))
  cases ends_cons.1 htail

/-- No address of four numbers is scanned where no number follows. -/
theorem run_ipv4_of_ends (h : Ends isNumeric rest) : ipv4.run rest = none :=
  run_ipv4_of_hex (g := []) nofun h

/-- None of eight numbers is scanned there either. -/
theorem run_group_of_ends (h : Ends isNumeric rest) : group.run rest = none := by
  rw [Option.eq_none_iff_forall_ne_some]
  rintro ⟨u, behind⟩ hrun
  obtain ⟨g, ⟨hne, -, hhex⟩, rfl, -⟩ := run_group_eq_some_iff.1 hrun
  cases g with
  | nil => exact hne rfl
  | cons c g =>
    have hc := ends_cons.1 h
    rw [isNumeric_of_isHex (hhex c List.mem_cons_self)] at hc
    cases hc

/-- **Numbers are scanned** up to what closes them. -/
theorem run_groups_of_isGroups {left count : Nat} {isFirst endsInIpv4 : Bool} {read : List Char}
    (h : IsGroups isFirst count endsInIpv4 read) (hleft : count ≤ left) (hrest : Closes rest) :
    (groups left isFirst).run (read ++ rest) = some ((count, endsInIpv4), rest) := by
  induction h generalizing left with
  | @nil isFirst =>
    cases left with
    | zero => rfl
    | succ left =>
      have hends (middle) (htext : rest = separator isFirst ++ middle) : Ends isNumeric middle :=
        Closes.ends (htext ▸ hrest)
      have hfour : (separated isFirst ipv4).run rest = none :=
        run_separated_eq_none fun middle htext => run_ipv4_of_ends (hends middle htext)
      have hone : (separated isFirst group).run rest = none :=
        run_separated_eq_none fun middle htext => run_group_of_ends (hends middle htext)
      rw [List.nil_append, run_groups_succ, hfour, ite_self, Option.elim_none, run_groupsBehind,
        hone]
      rfl
  | @ipv4 isFirst a ha =>
    obtain ⟨left, rfl⟩ : ∃ n, left = n + 2 := ⟨left - 2, by omega⟩
    have hends : Ends Char.isDigit rest :=
      hrest.ends_self.mono fun _ hc => isNumeric_of_isHex (isHex_of_isDigit hc)
    have hfour : (separated isFirst ipv4).run (separator isFirst ++ (a ++ rest))
        = some ((), rest) :=
      run_separated_eq_some_iff.2 ⟨_, rfl, run_ipv4_eq_some_iff.2 ⟨a, ha, rfl, hends⟩⟩
    rw [List.append_assoc, run_groups_succ, if_pos (Nat.le_add_left 1 left), hfour]
    rfl
  | @cons isFirst endsInIpv4 count g more hg hmore ih =>
    obtain ⟨left, rfl⟩ : ∃ n, left = n + 1 := ⟨left - 1, by omega⟩
    have hends := hmore.ends_append hrest
    -- The number is not taken for the first one of four.
    have hfour : (separated isFirst ipv4).run (separator isFirst ++ (g ++ (more ++ rest)))
        = none := by
      apply run_separated_eq_none
      intro middle htext
      rw [← List.append_cancel_left htext]
      exact run_ipv4_of_hex hg.2.2 hends
    have hone : (separated isFirst group).run (separator isFirst ++ (g ++ (more ++ rest)))
        = some ((), more ++ rest) :=
      run_separated_eq_some_iff.2 ⟨_, rfl, run_group_eq_some_iff.2
        ⟨g, hg, rfl, hends.mono fun _ => isNumeric_of_isHex⟩⟩
    rw [List.append_assoc, List.append_assoc, run_groups_succ, hfour, ite_self, Option.elim_none,
      run_groupsBehind, hone]
    show Option.map _ ((groups left false).run (more ++ rest)) = _
    rw [ih (by omega)]
    rfl

/-- **What is scanned is an address** of eight numbers. -/
theorem isIpv6_of_run (h : ipv6.run text = some (u, rest)) :
    ∃ read, IsIpv6 read ∧ text = read ++ rest := by
  rw [ipv6, run_bind_eq_some_iff] at h
  obtain ⟨⟨count, endsInIpv4⟩, middle, hgroups, h⟩ := h
  obtain ⟨hcount, front, hfront, rfl⟩ := isGroups_of_run hgroups
  dsimp only at h
  split at h
  case isTrue hless =>
    cases endsInIpv4 with
    | true => cases h
    | false =>
      change (expect "::" >>= fun _ => groups (7 - count) true >>= fun _ => pure ()).run middle
        = _ at h
      simp only [run_bind_eq_some_iff, run_expect_eq_some_iff, run_pure_eq_some_iff] at h
      obtain ⟨_, middle, rfl, ⟨backCount, endsInIpv4⟩, _, hrun, -, rfl⟩ := h
      obtain ⟨hbackCount, back, hback, rfl⟩ := isGroups_of_run hrun
      refine ⟨_, .short hfront hback (by omega), ?_⟩
      simp [List.append_assoc]
  case isFalse hmore =>
    obtain rfl : count = 8 := by omega
    obtain rfl := (run_pure_eq_some_iff.1 h).2
    exact ⟨front, .full hfront, rfl⟩

/-- **An address of eight numbers is scanned** up to a character that no address has. -/
theorem IsIpv6.run {read : List Char} (h : IsIpv6 read) (hrest : Ends isPart rest) :
    ipv6.run (read ++ rest) = some ((), rest) := by
  rw [ipv6, run_bind_eq_some_iff]
  cases h with
  | full h => exact ⟨_, _, run_groups_of_isGroups h (Nat.le_refl 8) (.inl hrest), rfl⟩
  | @short frontCount backCount endsInIpv4 front back hfront hback hcount =>
    refine ⟨(frontCount, false), ':' :: ':' :: (back ++ rest), ?_, ?_⟩
    · simp only [List.append_assoc, List.cons_append]
      exact run_groups_of_isGroups hfront (by omega) (.inr ⟨_, rfl⟩)
    · have hless : frontCount < 8 := by omega
      dsimp only
      rw [if_pos hless]
      change (expect "::" >>= fun _ => groups (7 - frontCount) true >>= fun _ => pure ()).run _
        = _
      simp only [run_bind_eq_some_iff, run_expect_eq_some_iff, run_pure_eq_some_iff]
      exact ⟨(), _, rfl, _, _, run_groups_of_isGroups hback (by omega) (.inl hrest), trivial, rfl⟩

/-- **The scan accepts the addresses** of eight numbers. -/
theorem all?_ipv6_iff : ipv6.all? text = some () ↔ IsIpv6 text := by
  rw [all?_eq_some_iff]
  constructor
  · intro h
    obtain ⟨read, hread, rfl⟩ := isIpv6_of_run h
    rwa [List.append_nil]
  · intro h
    have hrun := h.run (ends_nil _)
    rwa [List.append_nil] at hrun

instance : DecidablePred IsIpv6 :=
  fun _ => decidable_of_iff _ all?_ipv6_iff

/-! ## Addresses with ports -/

/-- A number is scanned up to the last of its digits. -/
theorem run_number_eq_some_iff {bound : Nat} :
    (number bound).run text = some (u, rest)
      ↔ ∃ digits, IsNumber bound digits ∧ text = digits ++ rest ∧ Ends Char.isDigit rest := by
  simp only [number, run_bind_eq_some_iff, run_takeWhile_eq_some_iff, run_lift_eq_some_iff]
  constructor
  · rintro ⟨digits, _, ⟨rfl, -, hends⟩, n, _, ⟨hn, rfl⟩, hcheck⟩
    split at hcheck
    case isTrue hlt =>
      obtain rfl := (run_pure_eq_some_iff.1 hcheck).2
      exact ⟨digits, ⟨n, hlt, hn⟩, rfl, hends⟩
    case isFalse => cases hcheck
  · rintro ⟨digits, ⟨n, hlt, hn⟩, rfl, hends⟩
    refine ⟨digits, rest, ⟨rfl, Numeral.isDigit_of_natural? hn, hends⟩, n, rest, ⟨hn, rfl⟩, ?_⟩
    rw [if_pos hlt]
    rfl

/-- A port is what a text ends with. -/
theorem run_port_eq_some_iff {word : String} :
    (expect word >>= fun _ => number UInt16.size).run text = some (u, [])
      ↔ ∃ port, IsNumber UInt16.size port ∧ text = word.toList ++ port := by
  simp only [run_bind_eq_some_iff, run_expect_eq_some_iff, run_number_eq_some_iff]
  constructor
  · rintro ⟨_, _, rfl, port, hport, rfl, -⟩
    exact ⟨port, hport, by rw [List.append_nil]⟩
  · rintro ⟨port, hport, rfl⟩
    exact ⟨(), _, rfl, port, hport, (List.append_nil _).symm, ends_nil _⟩

/-- The zone stands between an address and its bracket, and is known by the sign in front. -/
theorem run_zone_eq_some_iff :
    (accept "%" >>= fun hasZone =>
        let port := expect "]:" >>= fun _ => number UInt16.size
        if hasZone then number UInt32.size >>= fun _ => port else port).run text = some (u, [])
      ↔ ∃ zone port, IsZone zone ∧ IsNumber UInt16.size port
        ∧ text = zone ++ ']' :: ':' :: port := by
  rw [run_bind_eq_some_iff]
  constructor
  · rintro ⟨hasZone, behind, haccept, h⟩
    rcases run_accept_eq_some_iff.1 haccept with ⟨rfl, rfl⟩ | ⟨rfl, rfl, -⟩
    · obtain ⟨_, _, hnumber, hclose⟩ := run_bind_eq_some_iff.1 h
      obtain ⟨digits, hdigits, rfl, -⟩ := run_number_eq_some_iff.1 hnumber
      obtain ⟨port, hport, rfl⟩ := run_port_eq_some_iff.1 hclose
      exact ⟨'%' :: digits, port, .inr ⟨digits, hdigits, rfl⟩, hport, rfl⟩
    · obtain ⟨port, hport, rfl⟩ := run_port_eq_some_iff.1 h
      exact ⟨[], port, .inl rfl, hport, rfl⟩
  · rintro ⟨zone, port, hzone, hport, rfl⟩
    have hclose : (expect "]:" >>= fun _ => number UInt16.size).run (']' :: ':' :: port)
        = some ((), []) :=
      run_port_eq_some_iff.2 ⟨port, hport, rfl⟩
    rcases hzone with rfl | ⟨digits, hdigits, rfl⟩
    · refine ⟨false, _, run_accept_eq_some_iff.2 (.inr ⟨rfl, rfl, ?_⟩), hclose⟩
      simp
    · refine ⟨true, _, run_accept_eq_some_iff.2 (.inl ⟨rfl, rfl⟩), ?_⟩
      exact run_bind_eq_some_iff.2 ⟨(), _, run_number_eq_some_iff.2
        ⟨digits, hdigits, rfl, ends_cons.2 rfl⟩, hclose⟩

/-- No character of an address follows it, with a zone or without. -/
theorem IsZone.ends {zone : List Char} (h : IsZone zone) (more : List Char) :
    Ends isPart (zone ++ ']' :: more) := by
  rcases h with rfl | ⟨digits, -, rfl⟩
  · exact ends_cons.2 rfl
  · exact ends_cons.2 rfl

/-- **The scan accepts the addresses with ports.** -/
theorem all?_scan_iff : scan.all? text = some () ↔ IsSocketAddress text := by
  rw [all?_eq_some_iff, scan, run_orElse_eq_some_iff]
  constructor
  · rintro (hfour | ⟨-, height⟩)
    · obtain ⟨_, _, hipv4, hclose⟩ := run_bind_eq_some_iff.1 hfour
      obtain ⟨a, ha, rfl, -⟩ := run_ipv4_eq_some_iff.1 hipv4
      obtain ⟨port, hport, rfl⟩ := run_port_eq_some_iff.1 hclose
      exact .ipv4 ha hport
    · obtain ⟨_, _, hopen, hinside⟩ := run_bind_eq_some_iff.1 height
      obtain rfl := run_expect_eq_some_iff.1 hopen
      obtain ⟨_, _, hipv6, hbehind⟩ := run_bind_eq_some_iff.1 hinside
      obtain ⟨a, ha, rfl⟩ := isIpv6_of_run hipv6
      obtain ⟨zone, port, hzone, hport, rfl⟩ := run_zone_eq_some_iff.1 hbehind
      have haddress := IsSocketAddress.zoned ⟨a, zone, ha, hzone, rfl⟩ hport
      simpa using haddress
  · intro h
    cases h with
    | ipv4 ha hport =>
      left
      exact run_bind_eq_some_iff.2 ⟨(), _, run_ipv4_eq_some_iff.2 ⟨_, ha, rfl, ends_cons.2 rfl⟩,
        run_port_eq_some_iff.2 ⟨_, hport, rfl⟩⟩
    | @zoned address port haddress hport =>
      obtain ⟨a, zone, ha, hzone, rfl⟩ := haddress
      right
      constructor
      · -- A bracket is no number, so the address is not taken for one of four.
        rw [List.cons_append, StateT.run_bind, run_ipv4_of_ends (ends_cons.2 rfl)]
        rfl
      · have hbehind := (run_zone_eq_some_iff (u := ())).2 ⟨zone, port, hzone, hport, rfl⟩
        have hipv6 := ha.run (hzone.ends (':' :: port))
        refine run_bind_eq_some_iff.2 ⟨(), a ++ (zone ++ ']' :: ':' :: port),
          run_expect_eq_some_iff.2 ?_, run_bind_eq_some_iff.2 ⟨(), _, hipv6, hbehind⟩⟩
        simp

instance : DecidablePred IsSocketAddress :=
  fun _ => decidable_of_iff _ all?_scan_iff

end SpeakerHub.SocketAddress
