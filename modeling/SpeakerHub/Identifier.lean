/-! # Identifiers

Accounts and devices are filed under identifiers: nonempty runs of letters, digits, dots, hyphens
and underscores. The two names by which a directory calls itself and the one around it are none.

* **`Identifier.IsValid`** — the rule.
* **`Identifier.ofText?`** — a text as an identifier. -/

namespace SpeakerHub

namespace Identifier

/-- Whether a character may stand in an identifier. -/
def isAllowed (c : Char) : Bool :=
  ('A' ≤ c && c ≤ 'Z') || ('a' ≤ c && c ≤ 'z') || ('0' ≤ c && c ≤ '9')
    || c == '.' || c == '_' || c == '-'

/-- The rule for identifiers. -/
def IsValid (text : String) : Prop :=
  text ≠ "." ∧ text ≠ ".." ∧ text ≠ "" ∧ text.toList.all isAllowed

instance (text : String) : Decidable (IsValid text) :=
  inferInstanceAs (Decidable (_ ∧ _ ∧ _ ∧ _))

end Identifier

/-- A name under which something is filed. -/
structure Identifier where
  /-- The name. -/
  text : String
  /-- It keeps to the rule. -/
  valid : Identifier.IsValid text
  deriving DecidableEq

/-- A text as an identifier, if it keeps to the rule. -/
def Identifier.ofText? (text : String) : Option Identifier :=
  if h : IsValid text then some { text, valid := h } else none

/-- An identifier is the only one with its text. -/
@[simp] theorem Identifier.ofText?_text (i : Identifier) : ofText? i.text = some i := by
  simp [ofText?, i.valid]

end SpeakerHub
