import SpeakerHub.Markup.Reader
import SpeakerHub.Markup.Tag

/-! # Elements as records

An element seen as a record. Its members are its attributes, each under `@` and its name, and its
child elements under their names; prefixes of names do not count. Members nobody asks for are
ignored.

* **`Fields.ofElement?`** — the members, unless the attributes cannot be read.
* **`Fields.text?`** — a field that holds text, empty if it is absent, refused if it stands there
  twice.
* **`Fields.nested?`** — a field that is a record, without members if it is absent.
* **`Fields.items?`** — a field that is a list: elements of one name that stand side by side. -/

namespace SpeakerHub.Markup

/-- Something that a record holds. -/
inductive Member where
  /-- An attribute with its value as written. -/
  | attr (name value : List Char)
  /-- A child element. -/
  | child (e : Element (List Char))
  /-- Text between child elements. -/
  | stray

/-- The members of a record in their order. -/
structure Fields where
  /-- Attributes first, then what stands between the tags. -/
  members : List Member

/-- A name without its prefix. -/
def localName (name : List Char) : List Char :=
  match name.dropWhile (· != ':') with
  | [] => name
  | _ :: rest => rest

/-- Whether an attribute declares a prefix rather than a value. -/
def declaresPrefix (name : List Char) : Bool :=
  name == "xmlns".toList || "xmlns:".toList.isPrefixOf name

namespace Member

/-- The key of a member. A declaration of a prefix keeps its whole name. -/
def key? : Member → Option String
  | .attr name _ =>
    some (String.ofList ('@' :: if declaresPrefix name then name else localName name))
  | .child e => some (String.ofList (localName e.name.toList))
  | .stray => none

/-- The text of a member: the value of an attribute, or what an element holds if it holds no
element. -/
def text? : Member → Option String
  | .attr _ value => (unescape value).map String.ofList
  | .child e =>
    match e.children with
    | [] => some ""
    | [.text content] => some content
    | _ => none
  | .stray => none

/-- A child of an element as a member of its record. -/
def ofNode : Node (List Char) → Member
  | .text _ => .stray
  | .element name attributes children => .child { name, attributes, children }

/-- Whether a member is a child element of this full name. -/
def isNamed (name : String) : Member → Bool
  | .child e => e.name == name
  | _ => false

end Member

namespace Fields

/-- A record without members. -/
def empty : Fields := { members := [] }

/-- The members of an element. -/
def ofElement? (e : Element (List Char)) : Option Fields :=
  (Tag.attributes? e.attributes).map fun attributes =>
    { members := attributes.map (fun a => .attr a.1 a.2) ++ e.children.map .ofNode }

/-- The members with a key. -/
def withKey (f : Fields) (key : String) : List Member :=
  f.members.filter (·.key? == some key)

/-- The text under a key. -/
def text? (f : Fields) (key : String) : Option String :=
  match f.withKey key with
  | [] => some ""
  | [m] => m.text?
  | _ => none

/-- The record under a key. -/
def nested? (f : Fields) (key : String) : Option Fields :=
  match f.withKey key with
  | [] => some empty
  | [.child e] => ofElement? e
  | _ => none

/-- The list under a key: all child elements with the full name of the first one, which have to
stand side by side. Text right behind the last of them would belong to the list and is refused. -/
def items? (f : Fields) (key : String) : Option (List Fields) :=
  match f.members.dropWhile (·.key? != some key) with
  | .child first :: rest =>
    let after := rest.dropWhile (·.isNamed first.name)
    let hasText := match after with
      | .stray :: _ => true
      | _ => false
    if hasText || after.any (·.key? == some key) then none
    else
      ((.child first :: rest.takeWhile (·.isNamed first.name)).mapM fun
        | .child e => ofElement? e
        | _ => none)
  | [] => some []
  | _ => none

/-- The record in the root of a text. -/
def ofText? (text : String) : Option Fields :=
  (Markup.read? text).bind ofElement?

end Fields

end SpeakerHub.Markup
