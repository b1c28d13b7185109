import SpeakerHub.Markup.Entity

/-! # Markup trees

Trees of elements and text. Writers and readers share the shape and differ in the form in which an
element carries its attributes.

* **`Node α`**, **`Element α`** — text or an element; an element, that is a node that can be a root.
* **`Attributes`** — names with their values, in the order in which they are written.
* **`Element.named`, `leaf`, `attr`, `text`, `child`, `append`** — trees built from the outside in;
  everything keeps the order in which it was added. -/

namespace SpeakerHub.Markup

/-- Text, or an element whose attributes have the form `α`. -/
inductive Node (α : Type) where
  /-- Character data. -/
  | text (content : String)
  /-- An element with its name, attributes and children. -/
  | element (name : String) (attributes : α) (children : List (Node α))

/-- A node that is an element. -/
structure Element (α : Type) where
  /-- The name in both tags. -/
  name : String
  /-- The attributes of the opening tag. -/
  attributes : α
  /-- What stands between the tags. -/
  children : List (Node α)
deriving Inhabited

/-- Whether a node is an element. -/
def Node.isElement {α : Type} : Node α → Bool
  | .text _ => false
  | .element .. => true

/-- The element as a node of a larger tree. -/
def Element.toNode {α : Type} (e : Element α) : Node α :=
  .element e.name e.attributes e.children

/-- Attributes as names with values. -/
abbrev Attributes := List (String × String)

/-! ## Building -/

namespace Element

/-- An element without attributes and children. -/
def named (name : String) : Element Attributes :=
  { name, attributes := [], children := [] }

/-- The element with one more attribute. -/
def attr (e : Element Attributes) (key value : String) : Element Attributes :=
  { e with attributes := e.attributes ++ [(key, value)] }

/-- The element with one more attribute, unless its value is empty. -/
def attrUnlessEmpty (e : Element Attributes) (key value : String) : Element Attributes :=
  if value.isEmpty then e else e.attr key value

/-- The element with text behind its children. -/
def text (e : Element Attributes) (content : String) : Element Attributes :=
  { e with children := e.children ++ [.text content] }

/-- The element with another element behind its children. -/
def child (e inner : Element Attributes) : Element Attributes :=
  { e with children := e.children ++ [inner.toNode] }

/-- The element with a list of elements behind its children. -/
def append (e : Element Attributes) (inner : List (Element Attributes)) : Element Attributes :=
  { e with children := e.children ++ inner.map toNode }

/-- An element that holds one piece of text, which may be empty. -/
def leaf (name content : String) : Element Attributes :=
  (named name).text content

end Element

end SpeakerHub.Markup
