import SpeakerHub.Proofs.Markup.Grammar
import SpeakerHub.Proofs.Markup.Records

/-! # Faithful markup

A reader of whole trees: it takes the tags apart, resolves the attributes of every element, and
gives the tree that was written, in which texts side by side have become one and empty ones are
gone. So a tree and its text say the same, whatever its values hold and however its lines are
indented.

* **`IsXmlDeclaration.isDeclaration`** — a reader passes over any declaration.
* **`Node.resolve?`**, **`Element.ofText?`** — trees with resolved attributes, and the one in a
  text.
* **`Node.resolveAll_joinedAll`** — siblings, by induction on their list;
  **`Node.resolve_joined`** — trees, by induction on the tree.
* **`rendered_markup_is_faithful`** — well-nested text, and the tree that comes back. -/

namespace SpeakerHub.Markup

/-! ## Declarations -/

/-- An instruction goes on up to the first `?>`. -/
theorem Reader.run_instruction {content : List Char} {last : Char} {before : List Char}
    (h : ¬['?', '>'] <:+: last :: content) (pieces : List Piece) (frames : List Frame) :
    (reading (.instruction (last :: before)) pieces frames).run content
      = reading (.instruction (content.reverse ++ last :: before)) pieces frames := by
  induction content generalizing last before with
  | nil => rfl
  | cons c content ih =>
    have hstep : step (reading (.instruction (last :: before)) pieces frames) c
        = reading (.instruction (c :: last :: before)) pieces frames := by
      unfold step
      dsimp only
      by_cases hc : c = '>'
      · have hlast : last ≠ '?' := by
          rintro rfl
          rw [hc] at h
          exact h ⟨[], content, rfl⟩
        rw [if_pos hc]
        split
        case h_2 he => exact absurd (List.cons.inj he).1 hlast
        all_goals first | rfl | contradiction
      · rw [if_neg hc]
    have hrest : ¬['?', '>'] <:+: c :: content := fun hin =>
      h (hin.trans (List.suffix_cons last _).isInfix)
    rw [run, List.foldl_cons, hstep, ← run, ih hrest, List.reverse_cons, List.append_assoc,
      List.singleton_append]

/-- **A reader passes over any declaration.** -/
theorem IsXmlDeclaration.isDeclaration {declaration : String} (h : IsXmlDeclaration declaration) :
    IsDeclaration declaration := by
  obtain ⟨content, hparts, hends⟩ := h
  intro text
  have hopen : Reader.start.run "<?xml".toList = .reading (.instruction ['l', 'm', 'x']) [] [] :=
    rfl
  have hinside : ¬['?', '>'] <:+: 'l' :: content := by
    rw [List.infix_cons_iff, not_or]
    refine ⟨fun hprefix => ?_, hends⟩
    have hfirst : '?' = 'l' := (List.cons_prefix_cons.1 hprefix).1
    revert hfirst
    decide
  have hclose (raw : List Char) :
      (Reader.reading (.instruction raw) [] []).run ['?', '>'] = Reader.start := by
    cases raw <;> rfl
  have hmark : dropMark (declaration ++ text).toList = declaration.toList ++ text.toList := by
    rw [String.toList_append, hparts]
    rfl
  rw [read?, hmark, hparts, Reader.run_append, Reader.run_append, Reader.run_append, hopen,
    Reader.run_instruction hinside, hclose]

/-! ## Trees with resolved attributes -/

/-- The attributes of a tag, with the references in their values resolved. -/
def attributes? (raw : List Char) : Option Attributes :=
  (Tag.attributes? raw).bind (·.mapM fun a =>
    (unescape a.2).map fun value => (String.ofList a.1, String.ofList value))

mutual

/-- A node that was read, with the attributes of every element in it resolved. -/
def Node.resolve? : Node (List Char) → Option (Node Attributes)
  | .text content => some (.text content)
  | .element name raw children =>
    (attributes? raw).bind fun attributes =>
      (Node.resolveAll? children).map (.element name attributes)

/-- Siblings that were read, with the attributes of every element in them resolved. -/
def Node.resolveAll? : List (Node (List Char)) → Option (List (Node Attributes))
  | [] => some []
  | node :: rest =>
    (Node.resolve? node).bind fun node => (Node.resolveAll? rest).map (node :: ·)

end

/-- An element that was read, with the attributes of every element in it resolved. -/
def Element.resolve? (e : Element (List Char)) : Option (Element Attributes) :=
  (attributes? e.attributes).bind fun attributes =>
    (Node.resolveAll? e.children).map fun children => { name := e.name, attributes, children }

/-- The first element of a text with all that is in it, or `none` if it cannot be read. -/
def Element.ofText? (text : String) : Option (Element Attributes) :=
  (read? text).bind resolve?

/-- **The attributes of a written tag are the attributes it was written with.** -/
theorem attributes_written {attributes : Attributes} (h : ∀ a ∈ attributes, IsName a.1)
    (hdistinct : (attributes.map (·.1)).Nodup) :
    attributes? (written attributes) = some attributes := by
  have hvalue (a : String × String) (_ : a ∈ attributes) :
      ((unescape (escape a.2.toList)).map fun value =>
        (String.ofList a.1.toList, String.ofList value)) = some (id a) := by
    rw [unescape_escape, Option.map_some, String.ofList_toList, String.ofList_toList]
    rfl
  have hvalues := mapM_eq_some hvalue
  rw [List.map_id] at hvalues
  rw [attributes?, Tag.attributes_written h hdistinct, Option.bind_some, List.mapM_map]
  exact hvalues

/-- A text node in front of siblings has nothing to resolve. -/
theorem Node.resolveAll_textNodes (content : List Char) (rest : List (Node (List Char))) :
    Node.resolveAll? (textNodes content ++ rest)
      = (Node.resolveAll? rest).map (textNodes content ++ ·) := by
  unfold textNodes
  split
  case isTrue =>
    show Node.resolveAll? rest = _
    simp
  case isFalse =>
    show Node.resolveAll? (.text _ :: rest) = _
    rw [Node.resolveAll?, Node.resolve?]
    rfl

/-- **Written siblings are resolved as they are joined**, if each of them is. -/
theorem Node.resolveAll_joinedAll {children : List (Node Attributes)}
    (h : ∀ n ∈ children, (n.joined written).resolve? = some (n.joined id)) (content : List Char) :
    Node.resolveAll? (Node.joinedAll written content children)
      = some (Node.joinedAll id content children) := by
  induction children generalizing content with
  | nil =>
    rw [Node.joinedAll, Node.joinedAll, ← List.append_nil (textNodes content),
      Node.resolveAll_textNodes, Node.resolveAll?]
    simp
  | cons node children ih =>
    have hrest (n : Node Attributes) (hn : n ∈ children) :
        (n.joined written).resolve? = some (n.joined id) := h n (List.mem_cons_of_mem node hn)
    cases node with
    | text more =>
      rw [Node.joinedAll, Node.joinedAll]
      exact ih hrest (content ++ more.toList)
    | element name attributes inner =>
      have hnode := h _ List.mem_cons_self
      rw [Node.joinedAll, Node.joinedAll, Node.resolveAll_textNodes, Node.resolveAll?, hnode,
        Option.bind_some, ih hrest []]
      rfl

/-- **A written tree is resolved as it is joined**, by induction on the tree. -/
theorem Node.resolve_joined {node : Node Attributes} (h : node.IsWellFormed) :
    (node.joined written).resolve? = some (node.joined id) := by
  induction h with
  | text content => rw [Node.joined, Node.joined, Node.resolve?]
  | @element name attributes children named keys distinct inner ih =>
    rw [Node.joined, Node.joined, Node.resolve?, attributes_written keys distinct,
      Option.bind_some, Node.resolveAll_joinedAll ih]
    rfl

/-- A written element is resolved as it is joined. -/
theorem Element.resolve_joined {e : Element Attributes} (h : e.IsWellFormed) :
    (e.joined written).resolve? = some (e.joined id) := by
  obtain ⟨-, keys, distinct, inner⟩ := (isWellFormed_iff e).1 h
  have hchildren := Node.resolveAll_joinedAll (fun n hn => Node.resolve_joined (inner n hn)) []
  rw [resolve?, joined, attributes_written keys distinct, Option.bind_some, hchildren]
  rfl

/-- The text of an element is an element of the grammar. -/
theorem Element.isElementText_write {e : Element Attributes} (h : e.IsWellFormed)
    {indent : Option String} (hi : IsIndent indent) :
    IsElementText (e.toNode.write indent 0) :=
  Node.isWritten_write h hi 0

/-- The text of a document is a document of the grammar. -/
theorem Document.isDocumentText_render {d : Document} (hd : IsXmlDeclaration d.declaration)
    (hi : IsIndent d.indent) (h : d.root.IsWellFormed) : IsDocumentText d.render := by
  have hroot := Element.isElementText_write h hi
  -- The root stands right behind the declaration or on the line below it.
  let blanks : List Char := if d.indent.isSome then ['\n'] else []
  have hblanks : ∀ c ∈ blanks, isBlank c := by
    show ∀ c ∈ (if d.indent.isSome then ['\n'] else []), isBlank c
    split
    · simp [isBlank]
    · simp
  have hparts : d.render = d.declaration ++ String.ofList blanks
      ++ String.ofList (d.root.toNode.write d.indent 0) := by
    have hline : (if d.indent.isSome then "\n" else "") = String.ofList blanks := by
      show _ = String.ofList (if d.indent.isSome then ['\n'] else [])
      split <;> rfl
    rw [Document.render, hline]
  exact ⟨d.declaration, blanks, _, hparts, hd, hblanks, hroot⟩

/-- **Written markup is faithful, and no value forges any of it.** Take any tree whose names are
names and whose elements have no two attributes of one name. Values and texts are written as
character data; the tree on its own, and any document that it is the root of, is well nested; and
what is read of the text is the tree again, with the same names, the same attributes and the same
children in their order, where texts side by side are one and empty ones are gone. In particular
an indented document reads the same as the compact one. The rule for names is wider than that of
XML, and the unit of indentation may be any blanks. -/
theorem rendered_markup_is_faithful {e : Element Attributes} (h : e.IsWellFormed) :
    (∀ value, IsCharacterData (escape value) ∧ IsCharacterData (writeText value))
      ∧ (IsElementText e.render.toList ∧ Element.ofText? e.render = some (e.joined id))
      ∧ ∀ d : Document, d.root = e → IsXmlDeclaration d.declaration → IsIndent d.indent →
          IsDocumentText d.render ∧ Element.ofText? d.render = some (e.joined id)
            ∧ Element.ofText? { d with indent := none : Document }.render
              = Element.ofText? d.render := by
  have hread (d : Document) (hd : IsXmlDeclaration d.declaration) (hi : IsIndent d.indent)
      (hroot : d.root.IsWellFormed) : Element.ofText? d.render = some (d.root.joined id) := by
    rw [Element.ofText?, read_render d hd.isDeclaration hi hroot]
    exact Element.resolve_joined hroot
  refine ⟨fun value => ⟨isCharacterData_escape value, isCharacterData_writeText value⟩,
    ⟨?_, ?_⟩, ?_⟩
  · rw [Element.render, String.toList_ofList]
    exact Element.isElementText_write h isIndent_none
  · rw [Element.ofText?, read_element h]
    exact Element.resolve_joined h
  · rintro d rfl hd hi
    have hcompact := hread { d with indent := none } hd isIndent_none h
    refine ⟨Document.isDocumentText_render hd hi h, hread d hd hi h, ?_⟩
    rw [hcompact, hread d hd hi h]

/-- Mixed content with a value full of markup, on its own and under a declaration. -/
theorem mixed_content_is_faithful :
    let mixed := (((Element.named "p").attr "k" "\"<&").text " x").text ">"
    let root := (Element.named "r").child ((mixed.child (.leaf "b" "")).child (.named "c"))
    let read : Element Attributes :=
      { name := "r", attributes := [], children :=
          [.element "p" [("k", "\"<&")]
            [.text " x>", .element "b" [] [], .element "c" [] []]] }
    let d : Document := { declaration := plainDeclaration, indent := some "\t", root }
    root.render = "<r><p k=\"&quot;&lt;&amp;\">&#32;x&gt;<b></b><c/></p></r>"
      ∧ Element.ofText? root.render = some read ∧ Element.ofText? d.render = some read := by
  intro mixed root read d
  have hroot : root.IsWellFormed := by
    simp +decide [root, mixed]
  have hdeclaration : IsXmlDeclaration plainDeclaration :=
    ⟨" version=\"1.0\" encoding=\"UTF-8\"".toList, by decide +kernel, by decide +kernel⟩
  have hindent : IsIndent (some "\t") := by
    simp [IsIndent, isBlank]
  have h := rendered_markup_is_faithful hroot
  exact ⟨by decide +kernel, h.2.1.2, (h.2.2 d rfl hdeclaration hindent).2.1⟩

end SpeakerHub.Markup
