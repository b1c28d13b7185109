import SpeakerHub.Proofs.Markup.Rereading

/-! # The grammar of markup

What well-nested markup is, said without a reader. A tag closes itself or has an end tag of its own
name behind it. Between tags and inside the quotes of an attribute there is character data, in which
a bracket, an ampersand or a double quote stands only as a part of the markup: each of them is
written as a reference.

* **`IsReference`**, **`IsCharacterData`** — the references, and text that is made of them and of
  characters that stand for themselves.
* **`IsAttributeList`**, **`IsElementText`**, **`IsContent`** — the inside of a tag, an element, and
  what stands between two tags.
* **`IsXmlDeclaration`**, **`IsDocumentText`** — one root under a declaration.
* **`isCharacterData_escape`**, **`isCharacterData_writeText`** — no value forges markup.
* **`Node.isWritten_write`** — whatever a tree is written as is in the grammar, by induction on the
  tree. -/

namespace SpeakerHub.Markup

/-! ## Character data -/

/-- What may stand between `&` and `;`. -/
inductive IsReference : List Char → Prop where
  /-- The name of one of the five entities. -/
  | entity {name : String} (known : name ∈ ["lt", "gt", "amp", "apos", "quot"]) :
      IsReference name.toList
  /-- The number of a character. -/
  | decimal (n : Nat) : IsReference ('#' :: Nat.toDigits 10 n)

/-- **Character data**: neither `<` nor `&` nor a double quote stands for itself in it. -/
inductive IsCharacterData : List Char → Prop where
  /-- There may be none. -/
  | nil : IsCharacterData []
  /-- Any other character stands for itself. -/
  | char {c : Char} {rest : List Char} (plain : c ≠ '<' ∧ c ≠ '&' ∧ c ≠ '"')
      (behind : IsCharacterData rest) : IsCharacterData (c :: rest)
  /-- A reference stands for a character. -/
  | reference {name rest : List Char} (known : IsReference name)
      (behind : IsCharacterData rest) : IsCharacterData ('&' :: (name ++ ';' :: rest))

namespace IsCharacterData

/-- Character data side by side is character data. -/
theorem append {s t : List Char} (hs : IsCharacterData s) (ht : IsCharacterData t) :
    IsCharacterData (s ++ t) := by
  induction hs with
  | nil => exact ht
  | char plain _ ih => exact .char plain ih
  | @reference name rest known _ ih =>
    have hrest : '&' :: (name ++ ';' :: rest) ++ t = '&' :: (name ++ ';' :: (rest ++ t)) := by
      simp
    rw [hrest]
    exact .reference known ih

/-- What is written character by character is character data if every character is. -/
theorem flatMap {write : Char → List Char} {text : List Char}
    (h : ∀ c ∈ text, IsCharacterData (write c)) : IsCharacterData (text.flatMap write) := by
  induction text with
  | nil => exact .nil
  | cons c text ih =>
    rw [List.flatMap_cons]
    apply append (h c List.mem_cons_self)
    exact ih fun d hd => h d (List.mem_cons_of_mem c hd)

/-- Blanks are character data. -/
theorem ofBlanks {text : List Char} (h : ∀ c ∈ text, isBlank c) : IsCharacterData text := by
  induction text with
  | nil => exact .nil
  | cons c text ih =>
    have hc := h c List.mem_cons_self
    have plain : c ≠ '<' ∧ c ≠ '&' ∧ c ≠ '"' := by
      refine ⟨?_, ?_, ?_⟩ <;>
        · rintro rfl
          exact absurd hc (by decide)
    exact .char plain (ih fun d hd => h d (List.mem_cons_of_mem c hd))

end IsCharacterData

/-- Every character is written as character data. -/
theorem isCharacterData_escapeChar (c : Char) : IsCharacterData (escapeChar c) := by
  have hentity (name : String) (h : name ∈ ["lt", "gt", "amp", "apos", "quot"]) :
      IsCharacterData ('&' :: (name.toList ++ [';'])) :=
    .reference (.entity h) .nil
  unfold escapeChar
  split
  case h_1 => exact hentity "lt" (by decide)
  case h_2 => exact hentity "gt" (by decide)
  case h_3 => exact hentity "amp" (by decide)
  case h_4 => exact hentity "apos" (by decide)
  case h_5 => exact hentity "quot" (by decide)
  case h_6 hlt _ hamp _ hquot => exact .char ⟨hlt, hamp, hquot⟩ .nil

/-- **The value of an attribute forges no markup.** -/
theorem isCharacterData_escape (text : List Char) : IsCharacterData (escape text) :=
  .flatMap fun c _ => isCharacterData_escapeChar c

/-- **A text forges no markup**, nor do the blanks at its ends. -/
theorem isCharacterData_writeText (text : List Char) : IsCharacterData (writeText text) := by
  have hreference (c : Char) : IsCharacterData (reference c) :=
    .reference (.decimal c.toNat) .nil
  have hreferences (blanks : List Char) : IsCharacterData (blanks.flatMap reference) :=
    .flatMap fun c _ => hreference c
  exact ((hreferences _).append (isCharacterData_escape _)).append (hreferences _)

/-! ## Elements -/

/-- **The attributes in a tag** under their keys, of which no two are the same. -/
inductive IsAttributeList : List String → List Char → Prop where
  /-- There may be none. -/
  | nil : IsAttributeList [] []
  /-- One attribute in front of others. -/
  | cons {key : String} {keys : List String} {value rest : List Char} (named : IsName key)
      (new : key ∉ keys) (quoted : IsCharacterData value) (behind : IsAttributeList keys rest) :
      IsAttributeList (key :: keys) (' ' :: key.toList ++ '=' :: '"' :: value ++ '"' :: rest)

mutual

/-- **An element**: every tag is closed, by itself or by an end tag of its name. -/
inductive IsElementText : List Char → Prop where
  /-- A tag that closes itself. -/
  | empty {name : String} {keys : List String} {attributes : List Char} (named : IsName name)
      (inside : IsAttributeList keys attributes) :
      IsElementText ('<' :: name.toList ++ attributes ++ ['/', '>'])
  /-- A tag, content, and the end tag. -/
  | pair {name : String} {keys : List String} {attributes content : List Char}
      (named : IsName name) (inside : IsAttributeList keys attributes)
      (between : IsContent content) :
      IsElementText ('<' :: name.toList ++ attributes
        ++ '>' :: (content ++ '<' :: '/' :: name.toList ++ ['>']))

/-- **What stands between two tags**: character data and elements, in any order. -/
inductive IsContent : List Char → Prop where
  /-- There may be nothing. -/
  | nil : IsContent []
  /-- Character data in front of other content. -/
  | text {text rest : List Char} (data : IsCharacterData text) (behind : IsContent rest) :
      IsContent (text ++ rest)
  /-- An element in front of other content. -/
  | element {text rest : List Char} (closed : IsElementText text) (behind : IsContent rest) :
      IsContent (text ++ rest)

end

/-- A declaration: an instruction for `xml` that ends where it first can. -/
def IsXmlDeclaration (declaration : String) : Prop :=
  ∃ content : List Char, declaration.toList = "<?xml".toList ++ content ++ ['?', '>']
    ∧ ¬['?', '>'] <:+: content

/-- **A document**: one root under a declaration, with nothing but blanks between them. -/
def IsDocumentText (text : String) : Prop :=
  ∃ declaration blanks root, text = declaration ++ String.ofList blanks ++ String.ofList root
    ∧ IsXmlDeclaration declaration ∧ (∀ c ∈ blanks, isBlank c) ∧ IsElementText root

/-! ## What is written is in the grammar -/

/-- Attributes with different names are written as a list under these names. -/
theorem isAttributeList_written {attributes : Attributes} (h : ∀ a ∈ attributes, IsName a.1)
    (hdistinct : (attributes.map (·.1)).Nodup) :
    IsAttributeList (attributes.map (·.1)) (written attributes) := by
  induction attributes with
  | nil => exact .nil
  | cons a attributes ih =>
    obtain ⟨hnew, hdistinct⟩ := List.nodup_cons.1 hdistinct
    have hrest := ih (fun b hb => h b (List.mem_cons_of_mem a hb)) hdistinct
    have hparts : written (a :: attributes)
        = ' ' :: a.1.toList ++ '=' :: '"' :: escape a.2.toList ++ '"' :: written attributes := by
      simp [written, writeAttribute]
    rw [List.map_cons, hparts]
    exact .cons (h a List.mem_cons_self) hnew (isCharacterData_escape _) hrest

/-- What a node may be written as: character data for text, an element for an element. -/
def Node.IsWritten (text : List Char) : Node Attributes → Prop
  | .text _ => IsCharacterData text
  | .element .. => IsElementText text

/-- A written node can stand in front of other content. -/
theorem Node.IsWritten.isContent {node : Node Attributes} {text rest : List Char}
    (h : node.IsWritten text) (hrest : IsContent rest) : IsContent (text ++ rest) := by
  cases node with
  | text content => exact .text h hrest
  | element name attributes children => exact .element h hrest

/-- **Written siblings are content** if each of them is written by the grammar. -/
theorem isContent_writeAll {children : List (Node Attributes)} {indent : Option String}
    (hi : IsIndent indent) (depth : Nat)
    (h : ∀ n ∈ children, n.IsWritten (n.write indent depth)) {rest : List Char}
    (hrest : IsContent rest) : IsContent (Node.writeAll indent depth children ++ rest) := by
  induction children with
  | nil => exact hrest
  | cons node children ih =>
    have hbreak : IsCharacterData (lineBreak indent depth) :=
      .ofBlanks (isBlank_lineBreak hi depth)
    rw [Node.writeAll, List.append_assoc, List.append_assoc]
    apply IsContent.text hbreak
    apply (h node List.mem_cons_self).isContent
    exact ih fun n hn => h n (List.mem_cons_of_mem node hn)

/-- **A tree is written by the grammar**, compact or indented by blanks. -/
theorem Node.isWritten_write {node : Node Attributes} (h : node.IsWellFormed)
    {indent : Option String} (hi : IsIndent indent) (depth : Nat) :
    node.IsWritten (node.write indent depth) := by
  induction h generalizing indent depth with
  | text content => exact isCharacterData_writeText content.toList
  | @element name attributes children named keys distinct inner ih =>
    have hattributes := isAttributeList_written keys distinct
    rw [Node.write, ← written]
    cases children with
    | nil => exact .empty named hattributes
    | cons child children =>
      -- Lines are indented as outside, or not at all.
      let inside := if (child :: children).all Node.isElement then indent else none
      have hinside : IsIndent inside := by
        show IsIndent (if _ then indent else none)
        split
        · exact hi
        · exact isIndent_none
      have hbreak : IsCharacterData (lineBreak inside depth) :=
        .ofBlanks (isBlank_lineBreak hinside depth)
      have hend : IsContent (lineBreak inside depth) := by
        rw [← List.append_nil (lineBreak inside depth)]
        exact .text hbreak .nil
      have hcontent := isContent_writeAll hinside (depth + 1)
        (fun n hn => ih n hn hinside (depth + 1)) hend
      have hpair := IsElementText.pair named hattributes hcontent
      simpa [IsWritten, inside] using hpair

end SpeakerHub.Markup
