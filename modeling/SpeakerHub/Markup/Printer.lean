import SpeakerHub.Markup.Tree

/-! # Writing markup

The text of a tree. An element without children closes itself; one with empty text does not. Blanks
at either end of a text are written as references, because readers trim them. Indentation is used
where all children are elements, and ends for a whole subtree at the first element with text.

* **`Node.write`** — the characters of a node at a depth, indented or not.
* **`Element.render`** — one element on its own, without a declaration.
* **`Document`** — a root element under a declaration. -/

namespace SpeakerHub.Markup

/-- The written form of text inside an element. -/
def writeText (content : List Char) : List Char :=
  let body := trimStart content
  (content.takeWhile isBlank).flatMap reference
    ++ escape (trimEnd body)
    ++ (body.reverse.takeWhile isBlank).reverse.flatMap reference

/-- The written form of an attribute, with the space in front of it. -/
def writeAttribute (a : String × String) : List Char :=
  ' ' :: a.1.toList ++ '=' :: '"' :: escape a.2.toList ++ ['"']

/-- The break and indentation in front of a line at a depth, if lines are indented. -/
def lineBreak (indent : Option String) (depth : Nat) : List Char :=
  match indent with
  | none => []
  | some unit => '\n' :: (List.replicate depth unit.toList).flatten

mutual

/-- The characters of a node at a depth. -/
def Node.write (indent : Option String) (depth : Nat) : Node Attributes → List Char
  | .text content => writeText content.toList
  | .element name attributes children =>
    let inner := if children.all Node.isElement then indent else none
    '<' :: name.toList ++ attributes.flatMap writeAttribute ++
      if children.isEmpty then ['/', '>']
      else
        '>' :: Node.writeAll inner (depth + 1) children ++ lineBreak inner depth
          ++ '<' :: '/' :: name.toList ++ ['>']

/-- The characters of siblings at a depth, each on a line of its own if lines are indented. -/
def Node.writeAll (indent : Option String) (depth : Nat) : List (Node Attributes) → List Char
  | [] => []
  | node :: rest =>
    lineBreak indent depth ++ node.write indent depth ++ Node.writeAll indent depth rest

end

/-- The text of an element on its own. -/
def Element.render (e : Element Attributes) : String :=
  String.ofList (e.toNode.write none 0)

/-! ## Documents -/

/-- A declaration without a statement about other entities. -/
def plainDeclaration : String :=
  "<?xml version=\"1.0\" encoding=\"UTF-8\"?>"

/-- A declaration of a document that stands alone. -/
def standaloneDeclaration : String :=
  "<?xml version=\"1.0\" encoding=\"UTF-8\" standalone=\"yes\"?>"

/-- A root element under a declaration. -/
structure Document where
  /-- The line in front of the root. -/
  declaration : String := standaloneDeclaration
  /-- The unit of indentation, or `none` for one compact line. -/
  indent : Option String := none
  /-- The root. -/
  root : Element Attributes

/-- The text of a document. -/
def Document.render (d : Document) : String :=
  d.declaration ++ (if d.indent.isSome then "\n" else "")
    ++ String.ofList (d.root.toNode.write d.indent 0)

end SpeakerHub.Markup
