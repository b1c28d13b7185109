import SpeakerHub.Proofs.Text.Numeral
import SpeakerHub.Remote.Host

/-! # The grammar of addresses

Which texts are addresses, apart from how they are scanned: four numbers with points between them;
eight with colons, of which a run of zeros may be left out between two colons; and either of them
with a port.

* **`SocketAddress.IsIpv4`**, **`IsIpv6`** — addresses; **`IsGroups`** — the numbers on one side of
  two colons.
* **`SocketAddress.IsSocketAddress`** — addresses with ports.
* **`SocketAddress.IsIpv6.isPart_of_mem`** — which characters an address has;
  **`IsIpv6.two_le_count`** — that two of them are colons, so it is no name with a port. -/

namespace SpeakerHub.SocketAddress

/-! ## Four numbers -/

/-- How one of four numbers is written. -/
def shown (n : UInt8) : List Char :=
  Nat.toDigits 10 n.toNat

/-- **An address of four numbers**: each of them below 256, in decimal and without zeros in front,
with points between them. -/
def IsIpv4 (text : List Char) : Prop :=
  ∃ a b c d : UInt8,
    text = shown a ++ '.' :: (shown b ++ '.' :: (shown c ++ '.' :: shown d))

/-- A number is written with digits only. -/
theorem isDigit_of_mem_shown {n : UInt8} {c : Char} (h : c ∈ shown n) : c.isDigit = true :=
  Nat.isDigit_of_mem_toDigits (by decide) (by decide) h

/-! ## Eight numbers -/

/-- A hexadecimal digit. -/
def isHex (c : Char) : Bool :=
  (Numeral.digit? 16 c).isSome

/-- A character of a number, or the point between two of four. -/
def isNumeric (c : Char) : Bool :=
  isHex c || c == '.'

/-- A character of an address. -/
def isPart (c : Char) : Bool :=
  isNumeric c || c == ':'

/-- One of eight numbers: up to four hexadecimal digits. -/
def IsGroup (text : List Char) : Prop :=
  text ≠ [] ∧ text.length ≤ 4 ∧ ∀ c ∈ text, isHex c = true

/-- What stands in front of a number. -/
def separator (isFirst : Bool) : List Char :=
  if isFirst then [] else [':']

/-- **Numbers with colons between them**, and how many there are. The last two may be written as an
address of four numbers. Unless they are the first, there is a colon in front as well. -/
inductive IsGroups :
    (isFirst : Bool) → (count : Nat) → (endsInIpv4 : Bool) → List Char → Prop where
  /-- There are none. -/
  | nil {isFirst : Bool} : IsGroups isFirst 0 false []
  /-- They end in an address of four numbers, which stands for two. -/
  | ipv4 {isFirst : Bool} {a : List Char} (ha : IsIpv4 a) :
    IsGroups isFirst 2 true (separator isFirst ++ a)
  /-- One number, and the others behind it. -/
  | cons {isFirst endsInIpv4 : Bool} {count : Nat} {g more : List Char} (hg : IsGroup g)
    (hmore : IsGroups false count endsInIpv4 more) :
    IsGroups isFirst (count + 1) endsInIpv4 (separator isFirst ++ (g ++ more))

/-- **An address of eight numbers**: all of them, or fewer on the two sides of two colons. Only what
ends the address may be written as four numbers. -/
inductive IsIpv6 : List Char → Prop where
  /-- All eight numbers are there. -/
  | full {endsInIpv4 : Bool} {text : List Char} (h : IsGroups true 8 endsInIpv4 text) :
    IsIpv6 text
  /-- Two colons stand for at least one number. -/
  | short {frontCount backCount : Nat} {endsInIpv4 : Bool} {front back : List Char}
    (hfront : IsGroups true frontCount false front)
    (hback : IsGroups true backCount endsInIpv4 back) (hcount : frontCount + backCount ≤ 7) :
    IsIpv6 (front ++ ':' :: ':' :: back)

/-! ## Addresses with ports -/

/-- A decimal number below a bound. There may be zeros in front. -/
def IsNumber (bound : Nat) (digits : List Char) : Prop :=
  ∃ n < bound, Numeral.natural? 10 digits = some n

/-- The zone of an address of eight numbers, told by its number. Mostly there is none. -/
def IsZone (text : List Char) : Prop :=
  text = [] ∨ ∃ digits, IsNumber UInt32.size digits ∧ text = '%' :: digits

/-- An address of eight numbers with its zone. -/
def IsZoned (text : List Char) : Prop :=
  ∃ a zone, IsIpv6 a ∧ IsZone zone ∧ text = a ++ zone

/-- **An address with a port.** One of eight numbers stands in brackets, with its zone. -/
inductive IsSocketAddress : List Char → Prop where
  /-- Behind four numbers. -/
  | ipv4 {a port : List Char} (ha : IsIpv4 a) (hport : IsNumber UInt16.size port) :
    IsSocketAddress (a ++ ':' :: port)
  /-- Behind eight numbers. -/
  | zoned {a port : List Char} (ha : IsZoned a) (hport : IsNumber UInt16.size port) :
    IsSocketAddress ('[' :: (a ++ [']']) ++ ':' :: port)

/-! ## Which characters there are -/

/-- A decimal digit is a hexadecimal one. -/
theorem isHex_of_isDigit {c : Char} (h : c.isDigit = true) : isHex c = true :=
  Numeral.isSome_digit? (by decide) h

/-- A hexadecimal digit is a character of a number. -/
theorem isNumeric_of_isHex {c : Char} (h : isHex c = true) : isNumeric c = true :=
  Bool.or_eq_true_iff.2 (.inl h)

/-- A character of a number is one of an address. -/
theorem isPart_of_isNumeric {c : Char} (h : isNumeric c = true) : isPart c = true :=
  Bool.or_eq_true_iff.2 (.inl h)

/-- A number has digits only. -/
theorem IsNumber.isDigit_of_mem {bound : Nat} {digits : List Char} (h : IsNumber bound digits) :
    ∀ c ∈ digits, c.isDigit = true := by
  obtain ⟨n, -, hn⟩ := h
  exact Numeral.isDigit_of_natural? hn

/-- A zone has digits behind its sign. -/
theorem IsZone.eq_or_isDigit {zone : List Char} (h : IsZone zone) :
    ∀ c ∈ zone, c = '%' ∨ c.isDigit = true := by
  rcases h with rfl | ⟨digits, hdigits, rfl⟩
  · exact nofun
  · exact List.forall_mem_cons.2 ⟨.inl rfl, fun c hc => .inr (hdigits.isDigit_of_mem c hc)⟩

/-- An address of four numbers has digits and points. -/
theorem IsIpv4.isNumeric_of_mem {a : List Char} (h : IsIpv4 a) : ∀ c ∈ a, isNumeric c = true := by
  obtain ⟨first, second, third, fourth, rfl⟩ := h
  have hshown (n : UInt8) : ∀ c ∈ shown n, isNumeric c = true := fun c hc =>
    isNumeric_of_isHex (isHex_of_isDigit (isDigit_of_mem_shown hc))
  have hpoint : isNumeric '.' = true := rfl
  simp only [List.forall_mem_append, List.forall_mem_cons]
  exact ⟨hshown _, hpoint, hshown _, hpoint, hshown _, hpoint, hshown _⟩

/-- What stands in front of a number is a character of an address. -/
theorem isPart_of_mem_separator {isFirst : Bool} : ∀ c ∈ separator isFirst, isPart c = true := by
  cases isFirst with
  | true => exact nofun
  | false => exact List.forall_mem_singleton.2 rfl

/-- Numbers have characters of addresses. -/
theorem IsGroups.isPart_of_mem {count : Nat} {isFirst endsInIpv4 : Bool} {text : List Char}
    (h : IsGroups isFirst count endsInIpv4 text) : ∀ c ∈ text, isPart c = true := by
  induction h with
  | nil => exact nofun
  | ipv4 ha =>
    exact List.forall_mem_append.2
      ⟨isPart_of_mem_separator, fun c hc => isPart_of_isNumeric (ha.isNumeric_of_mem c hc)⟩
  | cons hg hmore ih =>
    exact List.forall_mem_append.2 ⟨isPart_of_mem_separator, List.forall_mem_append.2
      ⟨fun c hc => isPart_of_isNumeric (isNumeric_of_isHex (hg.2.2 c hc)), ih⟩⟩

/-- So have addresses of eight numbers. -/
theorem IsIpv6.isPart_of_mem {a : List Char} (h : IsIpv6 a) : ∀ c ∈ a, isPart c = true := by
  cases h with
  | full h => exact h.isPart_of_mem
  | short hfront hback =>
    simp only [List.forall_mem_append, List.forall_mem_cons]
    exact ⟨hfront.isPart_of_mem, rfl, rfl, hback.isPart_of_mem⟩

/-- There is a colon in front of every number but the first. -/
theorem IsGroups.count_le {count : Nat} {isFirst endsInIpv4 : Bool} {text : List Char}
    (h : IsGroups isFirst count endsInIpv4 text) :
    count ≤ text.count ':' + if isFirst then 2 else 1 := by
  induction h with
  | nil => exact Nat.zero_le _
  | @ipv4 isFirst a ha => cases isFirst <;> simp [separator]
  | @cons isFirst endsInIpv4 count g more hg hmore ih =>
    cases isFirst <;> simp [separator, List.count_append] at ih ⊢ <;> omega

/-- **An address of eight numbers has two colons** at least. -/
theorem IsIpv6.two_le_count {a : List Char} (h : IsIpv6 a) : 2 ≤ a.count ':' := by
  cases h with
  | full h =>
    have hcount := h.count_le
    rw [if_pos rfl] at hcount
    omega
  | short =>
    simp only [List.count_append, List.count_cons_self]
    omega

/-- So there is a colon in it. -/
theorem IsIpv6.colon_mem {a : List Char} (h : IsIpv6 a) : ':' ∈ a :=
  List.count_pos_iff.1 (Nat.lt_of_lt_of_le Nat.zero_lt_two h.two_le_count)

/-- An address without a zone. -/
theorem IsIpv6.isZoned {a : List Char} (h : IsIpv6 a) : IsZoned a :=
  ⟨a, [], h, .inl rfl, (List.append_nil a).symm⟩

/-- An address with its zone has two colons as well. -/
theorem IsZoned.two_le_count {a : List Char} (h : IsZoned a) : 2 ≤ a.count ':' := by
  obtain ⟨a, zone, ha, -, rfl⟩ := h
  rw [List.count_append]
  exact Nat.le_add_right_of_le ha.two_le_count

/-- So there is a colon in it, too. -/
theorem IsZoned.colon_mem {a : List Char} (h : IsZoned a) : ':' ∈ a := by
  obtain ⟨a, zone, ha, -, rfl⟩ := h
  exact List.mem_append_left _ ha.colon_mem

/-- An address with its zone has no brackets. -/
theorem IsZoned.not_bracket {a : List Char} (h : IsZoned a) : ∀ c ∈ a, c ≠ '[' ∧ c ≠ ']' := by
  obtain ⟨a, zone, ha, hzone, rfl⟩ := h
  refine List.forall_mem_append.2 ⟨fun c hc => ?_, fun c hc => ?_⟩
  · have hpart := ha.isPart_of_mem c hc
    constructor
    · rintro rfl
      cases hpart
    · rintro rfl
      cases hpart
  · rcases hzone.eq_or_isDigit c hc with rfl | hdigit
    · decide
    · constructor
      · rintro rfl
        cases hdigit
      · rintro rfl
        cases hdigit

end SpeakerHub.SocketAddress
