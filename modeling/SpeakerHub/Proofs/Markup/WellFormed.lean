import Mathlib.Data.List.Nodup
import SpeakerHub.Markup.Tree

/-! # Trees that can be written

A tree can be written if its names are names: nothing in them is blank or belongs to the markup
around them, and no element has two attributes of one name. Values and texts are free.

* **`IsName`** — the rule for names of elements and attributes.
* **`Node.IsWellFormed`**, **`Element.IsWellFormed`** — trees in which all names keep to it, with
  one equation for each way of building an element.
* **`Node.joined`** — the tree as it is read: neighbouring texts are one, and empty ones are
  gone. -/

namespace SpeakerHub.Markup

/-! ## Names -/

/-- The characters that are not blank and may not stand in a name: those of the markup, and the one
that marks attributes among the members of a record. -/
def markupChars : List Char :=
  ['<', '>', '/', '=', '"', '\'', '?', '!', '&', '@']

/-- Whether a character may stand in a name. -/
def isNameChar (c : Char) : Bool :=
  !isBlank c && !markupChars.contains c

/-- The rule for names. -/
def IsName (name : String) : Prop :=
  name.toList ≠ [] ∧ name.toList.all isNameChar

instance (name : String) : Decidable (IsName name) :=
  inferInstanceAs (Decidable (_ ∧ _))

/-- A name holds name characters. -/
theorem IsName.isNameChar {name : String} (h : IsName name) {c : Char} (hc : c ∈ name.toList) :
    isNameChar c = true :=
  List.all_eq_true.1 h.2 c hc

/-- A name character is not blank. -/
theorem isBlank_of_isNameChar {c : Char} (h : isNameChar c) : isBlank c = false := by
  simp only [isNameChar, Bool.and_eq_true, Bool.not_eq_true'] at h
  exact h.1

/-- A name character is none of the characters of the markup. -/
theorem ne_of_isNameChar {c d : Char} (h : isNameChar c)
    (hd : d ∈ markupChars) : c ≠ d := by
  rintro rfl
  simp only [isNameChar, List.contains_iff_mem.2 hd, Bool.not_true, Bool.and_false] at h
  cases h

/-! ## Trees -/

/-- **A tree that can be written**: its names are names, and no element has two attributes of one
name. -/
inductive Node.IsWellFormed : Node Attributes → Prop where
  /-- Any text can be written. -/
  | text (content : String) : IsWellFormed (.text content)
  /-- An element can be written with its names and its children. -/
  | element {name : String} {attributes : Attributes} {children : List (Node Attributes)}
      (named : IsName name) (keys : ∀ a ∈ attributes, IsName a.1)
      (distinct : (attributes.map (·.1)).Nodup) (inner : ∀ n ∈ children, IsWellFormed n) :
      IsWellFormed (.element name attributes children)

namespace Element

/-- An element that can be written. -/
def IsWellFormed (e : Element Attributes) : Prop :=
  e.toNode.IsWellFormed

/-- What it takes for an element to be written. -/
theorem isWellFormed_iff (e : Element Attributes) :
    e.IsWellFormed ↔ IsName e.name ∧ (∀ a ∈ e.attributes, IsName a.1)
      ∧ (e.attributes.map (·.1)).Nodup ∧ ∀ n ∈ e.children, n.IsWellFormed := by
  constructor
  · rintro ⟨⟩
    exact ⟨‹_›, ‹_›, ‹_›, ‹_›⟩
  · rintro ⟨named, keys, distinct, inner⟩
    exact .element named keys distinct inner

@[simp] theorem name_named (name : String) : (named name).name = name := rfl

@[simp] theorem name_attr (e : Element Attributes) (key value : String) :
    (e.attr key value).name = e.name := rfl

@[simp] theorem name_text (e : Element Attributes) (content : String) :
    (e.text content).name = e.name := rfl

@[simp] theorem name_append (e : Element Attributes) (inner : List (Element Attributes)) :
    (e.append inner).name = e.name := rfl

@[simp] theorem name_child (e inner : Element Attributes) : (e.child inner).name = e.name := rfl

@[simp] theorem name_leaf (name content : String) : (leaf name content).name = name := rfl

/-- An attribute that may be left out leaves the name. -/
@[simp] theorem name_attrUnlessEmpty (e : Element Attributes) (key value : String) :
    (e.attrUnlessEmpty key value).name = e.name := by
  unfold attrUnlessEmpty
  split <;> rfl

/-- The keys of an element's attributes. -/
def keys (e : Element Attributes) : List String :=
  e.attributes.map (·.1)

@[simp] theorem keys_named (name : String) : (named name).keys = [] := rfl

@[simp] theorem keys_attr (e : Element Attributes) (key value : String) :
    (e.attr key value).keys = e.keys ++ [key] := by
  simp [keys, attr]

@[simp] theorem keys_append (e : Element Attributes) (inner : List (Element Attributes)) :
    (e.append inner).keys = e.keys := rfl

@[simp] theorem keys_child (e inner : Element Attributes) : (e.child inner).keys = e.keys := rfl

/-- An attribute that may be left out adds its key if it has a value. -/
@[simp] theorem mem_keys_attrUnlessEmpty (e : Element Attributes) (key value other : String) :
    other ∈ (e.attrUnlessEmpty key value).keys ↔ other ∈ e.keys ∨ value ≠ "" ∧ other = key := by
  unfold attrUnlessEmpty
  split
  case isTrue hempty => simp [String.isEmpty_iff.1 hempty]
  case isFalse hvalue => simp [mt String.isEmpty_iff.2 hvalue]

/-- A bare element can be written under a name. -/
@[simp] theorem isWellFormed_named (name : String) :
    (named name).IsWellFormed ↔ IsName name := by
  simp [isWellFormed_iff, named]

/-- An attribute can be added under a new name. -/
@[simp] theorem isWellFormed_attr (e : Element Attributes) (key value : String) :
    (e.attr key value).IsWellFormed ↔ e.IsWellFormed ∧ IsName key ∧ key ∉ e.keys := by
  simp only [isWellFormed_iff, keys, attr, List.map_append, List.map_singleton,
    List.forall_mem_append, List.forall_mem_singleton, List.nodup_append, List.nodup_singleton,
    true_and]
  constructor
  · rintro ⟨named, ⟨keys, hkey⟩, ⟨distinct, hnew⟩, inner⟩
    exact ⟨⟨named, keys, distinct, inner⟩, hkey, fun h => hnew key h rfl⟩
  · rintro ⟨⟨named, keys, distinct, inner⟩, hkey, hnew⟩
    exact ⟨named, ⟨keys, hkey⟩, ⟨distinct, fun k hk he => hnew (he ▸ hk)⟩, inner⟩

/-- An attribute that may be left out can be added under a new name. -/
theorem IsWellFormed.attrUnlessEmpty {e : Element Attributes} (h : e.IsWellFormed) {key : String}
    (hkey : IsName key) (hnew : key ∉ e.keys) (value : String) :
    (e.attrUnlessEmpty key value).IsWellFormed := by
  unfold Element.attrUnlessEmpty
  split
  · exact h
  · exact (isWellFormed_attr e key value).2 ⟨h, hkey, hnew⟩

/-- Text can always be added. -/
@[simp] theorem isWellFormed_text (e : Element Attributes) (content : String) :
    (e.text content).IsWellFormed ↔ e.IsWellFormed := by
  have ht : (Node.text content : Node Attributes).IsWellFormed := .text content
  simp only [isWellFormed_iff, text, List.forall_mem_append, List.forall_mem_singleton, ht,
    and_true]

/-- Elements can be added if they can be written. -/
@[simp] theorem isWellFormed_append (e : Element Attributes) (inner : List (Element Attributes)) :
    (e.append inner).IsWellFormed ↔ e.IsWellFormed ∧ ∀ x ∈ inner, x.IsWellFormed := by
  rw [isWellFormed_iff, isWellFormed_iff e]
  simp only [append, List.forall_mem_append, List.forall_mem_map, and_assoc]
  rfl

/-- An element can be added if it can be written. -/
@[simp] theorem isWellFormed_child (e inner : Element Attributes) :
    (e.child inner).IsWellFormed ↔ e.IsWellFormed ∧ inner.IsWellFormed := by
  have h := isWellFormed_append e [inner]
  rwa [List.forall_mem_singleton] at h

/-- A leaf can be written under a name. -/
@[simp] theorem isWellFormed_leaf (name content : String) :
    (leaf name content).IsWellFormed ↔ IsName name := by
  simp [leaf]

end Element

/-! ## What is read of a tree -/

/-- A text node, unless it is empty. -/
def textNodes {α : Type} (content : List Char) : List (Node α) :=
  if content = [] then [] else [.text (String.ofList content)]

mutual

/-- A node as it is read, with its attributes in another form. -/
def Node.joined {α β : Type} (form : α → β) : Node α → Node β
  | .text content => .text content
  | .element name attributes children =>
    .element name (form attributes) (Node.joinedAll form [] children)

/-- Siblings as they are read behind some text: texts side by side are one, and empty ones are
gone. -/
def Node.joinedAll {α β : Type} (form : α → β) (content : List Char) : List (Node α) → List (Node β)
  | [] => textNodes content
  | .text more :: rest => Node.joinedAll form (content ++ more.toList) rest
  | .element name attributes children :: rest =>
    textNodes content ++ Node.joined form (.element name attributes children)
      :: Node.joinedAll form [] rest

end

/-- An element as it is read. -/
def Element.joined {α β : Type} (form : α → β) (e : Element α) : Element β :=
  { name := e.name
    attributes := form e.attributes
    children := Node.joinedAll form [] e.children }

/-- The node of an element is read as the element. -/
theorem Element.toNode_joined {α β : Type} (form : α → β) (e : Element α) :
    e.toNode.joined form = (e.joined form).toNode := by
  rw [Element.toNode, Node.joined]
  rfl

/-- Elements side by side are read as they are. -/
theorem Node.joinedAll_map_toNode {α β : Type} (form : α → β) (elements : List (Element α)) :
    Node.joinedAll form [] (elements.map Element.toNode)
      = elements.map fun e => (e.joined form).toNode := by
  induction elements with
  | nil => rfl
  | cons e rest ih =>
    rw [List.map_cons, Element.toNode, Node.joinedAll, ih, ← Element.toNode,
      Element.toNode_joined]
    rfl

end SpeakerHub.Markup
