import SpeakerHub.Markup.Fields
import SpeakerHub.Proofs.Markup.Rereading

/-! # Written records read back

An element whose names have no prefix, read as a record: its attributes and its child elements are
found under their names with the values they were written with.

* **`Tag.attributes_written`** — the attributes of a written tag are found, in their order.
* **`Fields.of`** — the members of an element, without the text in between;
  `Fields.ofElement_joined` — what is read of a written element; `Fields.ofText_render` — and of its
  text.
* **`Element.IsRecord`** — elements with unprefixed names, with one rule for each way of building
  one.
* **`IsRecord.text_attr`**, **`text_leaf`**, **`nested`**, **`items`** — the four ways of reading a
  member. -/

namespace SpeakerHub.Markup

/-- Items that are read one by one are read together. -/
theorem mapM_eq_some {α β : Type} {read? : α → Option β} {value : α → β} {items : List α}
    (h : ∀ x ∈ items, read? x = some (value x)) :
    items.mapM read? = some (items.map value) := by
  induction items with
  | nil => rfl
  | cons x items ih =>
    rw [List.mapM_cons, h x List.mem_cons_self, ih fun y hy => h y (List.mem_cons_of_mem x hy)]
    rfl

/-! ## Attributes -/

namespace Tag

/-- Reading goes on behind what has been read. -/
theorem foldlM_append {t u : Tag} {s : List Char} (h : s.foldlM step t = some u)
    (rest : List Char) : (s ++ rest).foldlM step t = rest.foldlM step u := by
  rw [List.foldlM_append, h]
  rfl

/-- A key goes on up to the equals sign. -/
theorem foldlM_key {key : List Char} (h : ∀ c ∈ key, isNameChar c)
    (raw : List Char) (found : List (List Char × List Char)) :
    key.foldlM step { place := .key raw, found }
      = some { place := .key (key.reverse ++ raw), found } := by
  induction key generalizing raw with
  | nil => rfl
  | cons c key ih =>
    have hc := h c List.mem_cons_self
    have hstep :
        step { place := .key raw, found } c = some { place := .key (c :: raw), found } := by
      simp [step, isBlank_of_isNameChar hc, ne_of_isNameChar hc (d := '=') (by decide)]
    rw [List.foldlM_cons, hstep]
    simpa using ih (fun d hd => h d (List.mem_cons_of_mem c hd)) (c :: raw)

/-- A value goes on up to its quote. -/
theorem foldlM_value {value : List Char} (h : '"' ∉ value) (key raw : List Char)
    (found : List (List Char × List Char)) :
    value.foldlM step { place := .value key '"' raw, found }
      = some { place := .value key '"' (value.reverse ++ raw), found } := by
  induction value generalizing raw with
  | nil => rfl
  | cons c value ih =>
    rw [List.mem_cons, not_or] at h
    have hstep : step { place := .value key '"' raw, found } c
        = some { place := .value key '"' (c :: raw), found } := by
      simp [step, Ne.symm h.1]
    rw [List.foldlM_cons, hstep]
    simpa using ih h.2 (c :: raw)

/-- A name begins a key. -/
theorem foldlM_name {name : String} (h : IsName name) (found : List (List Char × List Char)) :
    name.toList.foldlM step { place := .gap, found }
      = some { place := .key name.toList.reverse, found } := by
  obtain ⟨c, rest, hc⟩ := List.exists_cons_of_ne_nil h.1
  have hmem (d : Char) (hd : d ∈ c :: rest) : isNameChar d := h.isNameChar (hc ▸ hd)
  have hstep : step { place := .gap, found } c = some { place := .key [c], found } := by
    simp [step, isBlank_of_isNameChar (hmem c List.mem_cons_self)]
  rw [hc, List.foldlM_cons, hstep]
  simpa using foldlM_key (fun d hd => hmem d (List.mem_cons_of_mem c hd)) [c] found

/-- **A written attribute is found** behind those of other names. -/
theorem foldlM_attribute {a : String × String} (h : IsName a.1)
    {found : List (List Char × List Char)} (hnew : ∀ b ∈ found, b.1 ≠ a.1.toList) :
    (writeAttribute a).foldlM step { place := .gap, found }
      = some { place := .gap, found := (a.1.toList, escape a.2.toList) :: found } := by
  have hspace : [' '].foldlM step { place := .gap, found } = some { place := .gap, found } := rfl
  have hequals : ['=', '"'].foldlM step { place := .key a.1.toList.reverse, found }
      = some { place := .value a.1.toList '"' [], found } := by
    have : ['=', '"'].foldlM step { place := .key a.1.toList.reverse, found }
        = some { place := .value a.1.toList.reverse.reverse '"' [], found } := rfl
    rwa [List.reverse_reverse] at this
  have hfresh : found.any (·.1 == a.1.toList) = false := by
    rw [List.any_eq_false]
    exact fun b hb => by simpa using hnew b hb
  have hquote : ['"'].foldlM step
      { place := .value a.1.toList '"' ((escape a.2.toList).reverse ++ []), found }
        = some { place := .gap, found := (a.1.toList, escape a.2.toList) :: found } := by
    simp [step, hfresh]
  have hparts : writeAttribute a
      = [' '] ++ (a.1.toList ++ (['=', '"'] ++ (escape a.2.toList ++ ['"']))) := by
    simp [writeAttribute]
  rw [hparts, foldlM_append hspace, foldlM_append (foldlM_name h found), foldlM_append hequals,
    foldlM_append (foldlM_value (quote_not_mem_escape _) _ _ _), hquote]

/-- Written attributes are found one after the other. -/
theorem foldlM_attributes {attributes : Attributes} (h : ∀ a ∈ attributes, IsName a.1)
    (hdistinct : (attributes.map (·.1)).Nodup) {found : List (List Char × List Char)}
    (hnew : ∀ a ∈ attributes, ∀ b ∈ found, b.1 ≠ a.1.toList) :
    (written attributes).foldlM step { place := .gap, found }
      = some { place := .gap, found :=
          (attributes.map fun a => (a.1.toList, escape a.2.toList)).reverse ++ found } := by
  induction attributes generalizing found with
  | nil => rfl
  | cons a attributes ih =>
    rw [List.map_cons, List.nodup_cons] at hdistinct
    have hfirst := foldlM_attribute (h a List.mem_cons_self) (hnew a List.mem_cons_self)
    rw [written, List.flatMap_cons, foldlM_append hfirst, ← written, ih]
    · simp
    · exact fun b hb => h b (List.mem_cons_of_mem a hb)
    · exact hdistinct.2
    · -- The attribute that was found has none of the names behind it.
      intro b hb x hx
      rcases List.mem_cons.1 hx with rfl | hx
      · rw [Ne, String.toList_inj]
        exact fun he => hdistinct.1 (he ▸ List.mem_map_of_mem hb)
      · exact hnew b (List.mem_cons_of_mem a hb) x hx

/-- **The attributes of a written tag are found** under their names, in their order. -/
theorem attributes_written {attributes : Attributes} (h : ∀ a ∈ attributes, IsName a.1)
    (hdistinct : (attributes.map (·.1)).Nodup) :
    attributes? (written attributes)
      = some (attributes.map fun a => (a.1.toList, escape a.2.toList)) := by
  have hfound : (written attributes).foldlM step { place := .gap, found := [] } = _ :=
    foldlM_attributes h hdistinct (by simp)
  rw [attributes?, hfound]
  simp

end Tag

/-! ## Members -/

/-- A written attribute as it is read. -/
def Member.ofAttribute (a : String × String) : Member :=
  .attr a.1.toList (escape a.2.toList)

/-- A written element as it is read. -/
def Member.ofElement (e : Element Attributes) : Member :=
  .child (e.joined written)

/-- The members of an element that is read. -/
def Fields.of (e : Element Attributes) : Fields :=
  { members := e.attributes.map .ofAttribute
      ++ (Node.joinedAll written [] e.children).map .ofNode }

/-- **A written element is read as its members.** -/
theorem Fields.ofElement_joined {e : Element Attributes} (h : e.IsWellFormed) :
    Fields.ofElement? (e.joined written) = some (Fields.of e) := by
  obtain ⟨-, keys, distinct, -⟩ := (Element.isWellFormed_iff e).1 h
  simp only [Fields.ofElement?, Element.joined, Tag.attributes_written keys distinct,
    Option.map_some, List.map_map, Fields.of]
  rfl

/-- **The text of an element is read as its members**, whether the element stands on its own or in a
document. -/
theorem Fields.ofText_render {e : Element Attributes} (h : e.IsWellFormed) :
    Fields.ofText? e.render = some (Fields.of e)
      ∧ ∀ d : Document, d.root = e → IsDeclaration d.declaration → IsIndent d.indent →
          Fields.ofText? d.render = some (Fields.of e) := by
  constructor
  · rw [Fields.ofText?, read_element h]
    exact Fields.ofElement_joined h
  · rintro d rfl hd hi
    rw [Fields.ofText?, read_render d hd hi h]
    exact Fields.ofElement_joined h

/-- A name without a prefix. -/
def IsPlainName (name : String) : Prop :=
  IsName name ∧ ':' ∉ name.toList

instance (name : String) : Decidable (IsPlainName name) :=
  inferInstanceAs (Decidable (_ ∧ _))

/-- A name without a prefix is its own local name. -/
theorem localName_of_plain {name : String} (h : IsPlainName name) :
    localName name.toList = name.toList := by
  have hnone : name.toList.dropWhile (· != ':') = [] := by
    rw [List.dropWhile_eq_nil_iff]
    intro c hc
    exact bne_iff_ne.2 fun he => h.2 (he ▸ hc)
  rw [localName, hnone]

/-- The key under which an attribute is found. -/
def attributeKey (name : String) : String :=
  String.ofList ('@' :: name.toList)

/-- An attribute is found under its name. -/
theorem Member.key_ofAttribute {a : String × String} (h : IsPlainName a.1) :
    (Member.ofAttribute a).key? = some (attributeKey a.1) := by
  simp only [Member.ofAttribute, Member.key?, localName_of_plain h, ite_self, attributeKey]

/-- An element is found under its name. -/
theorem Member.key_ofElement {e : Element Attributes} (h : IsPlainName e.name) :
    (Member.ofElement e).key? = some e.name := by
  rw [Member.ofElement, Member.key?, Element.joined, localName_of_plain h, String.ofList_toList]

/-- Attributes are found under different keys. -/
theorem attributeKey_inj {name other : String} :
    attributeKey name = attributeKey other ↔ name = other := by
  rw [attributeKey, attributeKey, String.ofList_inj, List.cons.injEq, String.toList_inj]
  exact ⟨fun h => h.2, fun h => ⟨rfl, h⟩⟩

/-- No element is found under the key of an attribute. -/
theorem IsPlainName.ne_attributeKey {name : String} (h : IsPlainName name) (key : String) :
    name ≠ attributeKey key := by
  intro he
  have hat : '@' ∈ name.toList := by
    rw [he, attributeKey, String.toList_ofList]
    exact List.mem_cons_self
  exact ne_of_isNameChar (h.1.isNameChar hat) (by decide) rfl

/-! ## Records -/

namespace Element

/-- **An element that is a record**: it can be written, its names have no prefix, and `inner` stands
between its tags. -/
structure IsRecord (e : Element Attributes) (inner : List (Element Attributes)) : Prop where
  /-- It can be written. -/
  wellFormed : e.IsWellFormed
  /-- Its children are elements. -/
  children_eq : e.children = inner.map toNode
  /-- The names of its attributes have no prefix. -/
  keys_plain : ∀ k ∈ e.keys, IsPlainName k
  /-- The names of its children have no prefix. -/
  names_plain : ∀ x ∈ inner, IsPlainName x.name

namespace IsRecord

variable {e : Element Attributes} {inner : List (Element Attributes)}

/-- A bare element is a record. -/
theorem named {name : String} (h : IsName name) : (Element.named name).IsRecord [] where
  wellFormed := (isWellFormed_named name).2 h
  children_eq := rfl
  keys_plain := by simp
  names_plain := by simp

/-- A record stays one with a new attribute. -/
theorem attr (h : e.IsRecord inner) {key : String} (hkey : IsPlainName key)
    (hnew : key ∉ e.keys) (value : String) : (e.attr key value).IsRecord inner where
  wellFormed := (isWellFormed_attr e key value).2 ⟨h.wellFormed, hkey.1, hnew⟩
  children_eq := h.children_eq
  keys_plain := by
    rw [keys_attr, List.forall_mem_append, List.forall_mem_singleton]
    exact ⟨h.keys_plain, hkey⟩
  names_plain := h.names_plain

/-- A record stays one with a new attribute that may be left out. -/
theorem attrUnlessEmpty (h : e.IsRecord inner) {key : String} (hkey : IsPlainName key)
    (hnew : key ∉ e.keys) (value : String) : (e.attrUnlessEmpty key value).IsRecord inner := by
  unfold Element.attrUnlessEmpty
  split
  · exact h
  · exact h.attr hkey hnew value

/-- A record stays one with more elements in it. -/
theorem append (h : e.IsRecord inner) {more : List (Element Attributes)}
    (hmore : ∀ x ∈ more, x.IsWellFormed ∧ IsPlainName x.name) :
    (e.append more).IsRecord (inner ++ more) where
  wellFormed := (isWellFormed_append e more).2 ⟨h.wellFormed, fun x hx => (hmore x hx).1⟩
  children_eq := by rw [List.map_append, ← h.children_eq]; rfl
  keys_plain := h.keys_plain
  names_plain := by
    rw [List.forall_mem_append]
    exact ⟨h.names_plain, fun x hx => (hmore x hx).2⟩

/-- A record stays one with another element in it. -/
theorem child (h : e.IsRecord inner) {x : Element Attributes} (hx : x.IsWellFormed)
    (hname : IsPlainName x.name) : (e.child x).IsRecord (inner ++ [x]) := by
  have hmore : ∀ y ∈ [x], y.IsWellFormed ∧ IsPlainName y.name :=
    List.forall_mem_singleton.2 ⟨hx, hname⟩
  exact h.append hmore

/-- The members of a record are its attributes and its elements. -/
theorem members_eq (h : e.IsRecord inner) :
    (Fields.of e).members = e.attributes.map .ofAttribute ++ inner.map .ofElement := by
  rw [Fields.of, h.children_eq, Node.joinedAll_map_toNode, List.map_map]
  rfl

end IsRecord

/-! ## The values of attributes -/

/-- The value of an attribute, empty if the element does not have it. -/
def value (e : Element Attributes) (key : String) : String :=
  (e.attributes.lookup key).getD ""

@[simp] theorem value_named (name key : String) : (named name).value key = "" := rfl

@[simp] theorem value_append (e : Element Attributes) (more : List (Element Attributes))
    (key : String) : (e.append more).value key = e.value key := rfl

@[simp] theorem value_child (e x : Element Attributes) (key : String) :
    (e.child x).value key = e.value key := rfl

/-- An attribute that an element does not have has no value. -/
theorem lookup_of_not_mem {e : Element Attributes} {key : String} (h : key ∉ e.keys) :
    e.attributes.lookup key = none := by
  rw [List.lookup_eq_none_iff]
  intro a ha
  exact bne_iff_ne.2 fun he => h (List.mem_map.2 ⟨a, ha, he.symm⟩)

/-- A new attribute has its value. -/
@[simp] theorem value_attr_self {e : Element Attributes} {key : String} (h : key ∉ e.keys)
    (value : String) : (e.attr key value).value key = value := by
  simp [Element.value, attr, List.lookup_append, lookup_of_not_mem h]

/-- A new attribute leaves the values of the others. -/
@[simp] theorem value_attr_of_ne {key other : String} (h : other ≠ key) (e : Element Attributes)
    (value : String) : (e.attr key value).value other = e.value other := by
  simp [Element.value, attr, List.lookup_append, List.lookup_cons, beq_eq_false_iff_ne.2 h]

/-- An attribute that may be left out has its value all the same. -/
@[simp] theorem value_attrUnlessEmpty_self {e : Element Attributes} {key : String}
    (h : key ∉ e.keys) (value : String) : (e.attrUnlessEmpty key value).value key = value := by
  unfold attrUnlessEmpty
  split
  case isTrue hempty =>
    rw [Element.value, lookup_of_not_mem h, String.isEmpty_iff.1 hempty]
    rfl
  case isFalse => exact value_attr_self h value

/-- An attribute that may be left out leaves the values of the others. -/
@[simp] theorem value_attrUnlessEmpty_of_ne {key other : String} (h : other ≠ key)
    (e : Element Attributes) (value : String) :
    (e.attrUnlessEmpty key value).value other = e.value other := by
  unfold attrUnlessEmpty
  split
  · rfl
  · exact value_attr_of_ne h e value

/-! ## Reading members -/

/-- Among attributes of different names there is one of a name, or none. -/
theorem filter_key {attributes : Attributes} (h : (attributes.map (·.1)).Nodup) (key : String) :
    attributes.filter (·.1 == key)
      = ((attributes.lookup key).map fun value => (key, value)).toList := by
  induction attributes with
  | nil => rfl
  | cons a attributes ih =>
    obtain ⟨name, value⟩ := a
    rw [List.map_cons, List.nodup_cons] at h
    by_cases hname : name = key
    · subst hname
      have hrest : attributes.filter (·.1 == name) = [] := by
        rw [List.filter_eq_nil_iff]
        intro b hb he
        exact h.1 (List.mem_map.2 ⟨b, hb, beq_iff_eq.1 he⟩)
      simp [hrest]
    · simp [List.lookup_cons, hname, beq_eq_false_iff_ne.2 (Ne.symm hname), ih h.2]

/-- A leaf is read as its text. -/
theorem text_leaf (name content : String) :
    (Member.ofElement (leaf name content)).text? = some content := by
  have hread : ((leaf name content).joined written).children = textNodes content.toList := rfl
  by_cases hc : content.toList = []
  · obtain rfl : content = "" := String.toList_eq_nil_iff.1 hc
    rfl
  · simp [Member.ofElement, Member.text?, hread, textNodes, hc]

namespace IsRecord

variable {e : Element Attributes} {inner : List (Element Attributes)}

/-- Under the key of an attribute there is at most this attribute. -/
theorem withKey_attr (h : e.IsRecord inner) (key : String) :
    (Fields.of e).withKey (attributeKey key)
      = ((e.attributes.lookup key).map fun value => .ofAttribute (key, value)).toList := by
  obtain ⟨-, -, distinct, -⟩ := (isWellFormed_iff e).1 h.wellFormed
  have hattributes : (e.attributes.map Member.ofAttribute).filter
      (·.key? == some (attributeKey key))
        = (e.attributes.filter (·.1 == key)).map Member.ofAttribute := by
    rw [List.filter_map]
    congr 1
    refine List.filter_congr fun a ha => ?_
    have hplain : IsPlainName a.1 := h.keys_plain a.1 (List.mem_map_of_mem ha)
    rw [Function.comp_apply, Member.key_ofAttribute hplain, Bool.eq_iff_iff, beq_iff_eq, beq_iff_eq,
      Option.some_inj, attributeKey_inj]
  have helements : (inner.map Member.ofElement).filter
      (·.key? == some (attributeKey key)) = [] := by
    rw [List.filter_eq_nil_iff, List.forall_mem_map]
    intro x hx
    have hplain : IsPlainName x.name := h.names_plain x hx
    rw [Member.key_ofElement hplain, beq_iff_eq, Option.some_inj]
    exact hplain.ne_attributeKey key
  rw [Fields.withKey, h.members_eq, List.filter_append, hattributes, helements, List.append_nil,
    filter_key distinct]
  cases e.attributes.lookup key <;> rfl

/-- **An attribute is read as its value**, and as nothing if it was left out. -/
theorem text_attr (h : e.IsRecord inner) (name : String) {key content : String}
    (hkey : attributeKey name = key) (hvalue : e.value name = content) :
    (Fields.of e).text? key = some content := by
  subst hkey hvalue
  rw [Fields.text?, h.withKey_attr, Element.value]
  cases e.attributes.lookup name with
  | none => rfl
  | some value =>
    simp only [Option.map_some, Option.toList_some, Member.ofAttribute, Member.text?,
      unescape_escape, String.ofList_toList, Option.getD_some]

/-- No attribute is found under the name of an element. -/
theorem key_ne_of_attribute (h : e.IsRecord inner) {key : String} (hkey : '@' ∉ key.toList) :
    ∀ m ∈ e.attributes.map Member.ofAttribute, m.key? ≠ some key := by
  rw [List.forall_mem_map]
  intro a ha
  rw [Member.key_ofAttribute (h.keys_plain a.1 (List.mem_map_of_mem ha)), Ne, Option.some_inj]
  rintro rfl
  rw [attributeKey, String.toList_ofList] at hkey
  exact hkey List.mem_cons_self

/-- Under the name of an element there are the elements of this name. -/
theorem withKey_child (h : e.IsRecord inner) {key : String} (hkey : '@' ∉ key.toList) :
    (Fields.of e).withKey key
      = (inner.filter (·.name == key)).map Member.ofElement := by
  have hattributes : (e.attributes.map Member.ofAttribute).filter (·.key? == some key) = [] := by
    rw [List.filter_eq_nil_iff]
    intro m hm
    exact fun he => h.key_ne_of_attribute hkey m hm (beq_iff_eq.1 he)
  rw [Fields.withKey, h.members_eq, List.filter_append, hattributes, List.nil_append,
    List.filter_map]
  congr 1
  refine List.filter_congr fun x hx => ?_
  rw [Function.comp_apply, Member.key_ofElement (h.names_plain x hx), Bool.eq_iff_iff, beq_iff_eq,
    beq_iff_eq, Option.some_inj]

/-- **A leaf is read as its text** if it is the only element of its name. -/
theorem text_child (h : e.IsRecord inner) {key content : String} (hkey : '@' ∉ key.toList)
    (honly : inner.filter (·.name == key) = [leaf key content]) :
    (Fields.of e).text? key = some content := by
  rw [Fields.text?, h.withKey_child hkey, honly]
  exact text_leaf key content

/-- **A missing element is read as no text.** -/
theorem text_none (h : e.IsRecord inner) {key : String} (hkey : '@' ∉ key.toList)
    (hnone : inner.filter (·.name == key) = []) : (Fields.of e).text? key = some "" := by
  rw [Fields.text?, h.withKey_child hkey, hnone]
  rfl

/-- **A record in a record is read as its members** if it is the only element of its name. -/
theorem nested (h : e.IsRecord inner) {key : String} {x : Element Attributes}
    (hkey : '@' ∉ key.toList) (honly : inner.filter (·.name == key) = [x])
    (hx : x.IsWellFormed) : (Fields.of e).nested? key = some (Fields.of x) := by
  rw [Fields.nested?, h.withKey_child hkey, honly]
  exact Fields.ofElement_joined hx

/-- Elements that can be written are read one after the other. -/
theorem mapM_ofElement {items : List (Element Attributes)} (h : ∀ x ∈ items, x.IsWellFormed) :
    ((items.map Member.ofElement).mapM fun
      | .child e => Fields.ofElement? e
      | _ => none) = some (items.map Fields.of) := by
  rw [List.mapM_map]
  exact mapM_eq_some fun x hx => Fields.ofElement_joined (h x hx)

/-- Elements of other names are not found under a name. -/
theorem key_ne_of_names (h : e.IsRecord inner) {key : String} {xs : List (Element Attributes)}
    (hxs : ∀ x ∈ xs, x ∈ inner ∧ x.name ≠ key) :
    ∀ m ∈ xs.map Member.ofElement, (m.key? != some key) = true := by
  rw [List.forall_mem_map]
  intro x hx
  obtain ⟨hinner, hname⟩ := hxs x hx
  rw [Member.key_ofElement (h.names_plain x hinner), bne_iff_ne, Ne, Option.some_inj]
  exact hname

/-- Elements of one name are taken together, up to the first one of another name. -/
theorem span_isNamed {key : String} {items after : List (Element Attributes)}
    (hitems : ∀ x ∈ items, x.name = key) (hafter : ∀ x ∈ after, x.name ≠ key) :
    (items.map Member.ofElement ++ after.map Member.ofElement).takeWhile (·.isNamed key)
        = items.map Member.ofElement
      ∧ (items.map Member.ofElement ++ after.map Member.ofElement).dropWhile (·.isNamed key)
        = after.map Member.ofElement := by
  have hsame : ∀ m ∈ items.map Member.ofElement, m.isNamed key = true := by
    rw [List.forall_mem_map]
    exact fun x hx => beq_iff_eq.2 (hitems x hx)
  rw [List.takeWhile_append_of_pos hsame, List.dropWhile_append_of_pos hsame]
  cases after with
  | nil => simp
  | cons y after =>
    have hy : (Member.ofElement y).isNamed key = false :=
      beq_eq_false_iff_ne.2 (hafter y List.mem_cons_self)
    simp [hy]

/-- **A list in a record is read item by item** if its items stand side by side and nothing else has
their name. -/
theorem items {before items after : List (Element Attributes)}
    (h : e.IsRecord (before ++ (items ++ after))) {key : String} (hkey : '@' ∉ key.toList)
    (hitems : ∀ x ∈ items, x.IsWellFormed ∧ x.name = key)
    (hbefore : ∀ x ∈ before, x.name ≠ key) (hafter : ∀ x ∈ after, x.name ≠ key) :
    (Fields.of e).items? key = some (items.map Fields.of) := by
  have hattributes : ∀ m ∈ e.attributes.map Member.ofAttribute, (m.key? != some key) = true :=
    fun m hm => bne_iff_ne.2 (h.key_ne_of_attribute hkey m hm)
  have hfront := h.key_ne_of_names fun x hx => ⟨List.mem_append_left _ hx, hbefore x hx⟩
  have hback := h.key_ne_of_names fun x hx =>
    ⟨List.mem_append_right _ (List.mem_append_right _ hx), hafter x hx⟩
  rw [Fields.items?, h.members_eq, List.map_append, List.map_append,
    List.dropWhile_append_of_pos hattributes, List.dropWhile_append_of_pos hfront]
  cases items with
  | nil =>
    rw [List.map_nil, List.nil_append, List.dropWhile_eq_nil_iff.2 hback]
    rfl
  | cons x items =>
    obtain ⟨-, hname⟩ := hitems x List.mem_cons_self
    have hplain : IsPlainName x.name := h.names_plain x (by simp)
    have hfirst : ((x :: items).map Member.ofElement ++ after.map Member.ofElement).dropWhile
        (·.key? != some key)
          = Member.ofElement x :: (items.map Member.ofElement ++ after.map Member.ofElement) := by
      rw [List.map_cons, List.cons_append, List.dropWhile_cons, Member.key_ofElement hplain, hname]
      simp
    obtain ⟨htake, hdrop⟩ :=
      span_isNamed (fun y hy => (hitems y (List.mem_cons_of_mem x hy)).2) hafter
    have hno : (after.map Member.ofElement).any (·.key? == some key) = false := by
      rw [List.any_eq_false]
      exact fun m hm he => bne_iff_ne.1 (hback m hm) (beq_iff_eq.1 he)
    have hread := mapM_ofElement fun y hy => (hitems y hy).1
    have hname' : (x.joined written).name = key := hname
    rw [hfirst, Member.ofElement]
    dsimp only
    rw [hname', htake, hdrop, hno]
    -- Behind the items there is nothing or an element, never text.
    cases after <;> exact hread

end IsRecord

end Element

end SpeakerHub.Markup
