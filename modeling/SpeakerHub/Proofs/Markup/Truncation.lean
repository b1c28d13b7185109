import SpeakerHub.Proofs.Markup.Rereading

/-! # Documents that were cut off

A reader has the root of a document only when it has come past the last character of its last tag,
and it never looks at what follows. So a document that ends before is not read at all, wherever that
is: in its declaration, in a name, in a value, in a reference, in text or between two tags.

* **`IsCutOff`** — what is left of a text without its end.
* **`read_append`** — what follows the root does not matter.
* **`Reader.root_run_front`** — in front of its last character there is no root.
* **`read_of_isCutOff`** — a document that was cut off is not read. -/

namespace SpeakerHub.Markup

/-- **What is left of a text** that was cut off: it is shorter. -/
def IsCutOff (front text : String) : Prop :=
  ∃ back, back ≠ "" ∧ text = front ++ back

/-- **What is left of a text** that was cut off ends in front of its last character at the
latest. -/
theorem IsCutOff.exists_append {front text : String} {c : Char}
    (h : IsCutOff front (text ++ String.ofList [c])) : ∃ back, text = front ++ back := by
  obtain ⟨back, hback, htext⟩ := h
  rcases List.eq_nil_or_concat back.toList with hnil | ⟨rest, last, hrest⟩
  · exact absurd (String.toList_eq_nil_iff.1 hnil) hback
  rw [← String.toList_inj, String.toList_append, String.toList_append, String.toList_ofList,
    hrest, List.concat_eq_append, ← List.append_assoc] at htext
  -- What is missing ends in the last character, and may begin in front of it.
  refine ⟨String.ofList rest, ?_⟩
  rw [← String.toList_inj, String.toList_append, String.toList_ofList]
  exact (List.append_inj' htext rfl).1

namespace Reader

/-- **A reader that has the root** keeps it. -/
theorem root_run {r : Reader} {root : Element (List Char)} (h : r.root? = some root)
    (text : List Char) : (r.run text).root? = some root := by
  cases r with
  | reading lexeme pieces frames => cases h
  | failed => cases h
  | done root' => rwa [run_done]

/-- **In front of the last character** of an element there is no root. -/
theorem root_run_front {e : Element Attributes} (h : e.IsWellFormed) {indent : Option String}
    (hi : IsIndent indent) (raw : List Char) (hraw : ∀ c ∈ raw, isBlank c) :
    ∃ front, e.toNode.write indent 0 = front ++ ['>']
      ∧ ((reading (.text raw) [] []).run front).root? = none := by
  have hflush : flush? (pushText raw []) [] = some [] := by
    rw [flush?, CharacterData.read_blank hraw]
    rfl
  obtain ⟨named, keys, -, inner⟩ := (Element.isWellFormed_iff e).1 h
  obtain ⟨front, lexeme, pieces, opened, hwrite, hfront, -⟩ :=
    run_unclosed named keys (fun n hn => run_write (inner n hn)) hi 0 hflush
  refine ⟨front, hwrite, ?_⟩
  rw [hfront]
  rfl

end Reader

/-- The mark that a text begins with is not at its end. -/
theorem dropMark_append {front : List Char} (h : front ≠ []) (back : List Char) :
    dropMark (front ++ back) = dropMark front ++ back := by
  cases front with
  | nil => exact absurd rfl h
  | cons c front =>
    -- Only the first character can be a mark.
    rw [List.cons_append]
    unfold dropMark
    split <;> split <;> simp_all

/-- **What follows the root** does not matter. -/
theorem read_append {front : String} {root : Element (List Char)} (h : read? front = some root)
    (back : String) : read? (front ++ back) = some root := by
  have hne : front.toList ≠ [] := by
    intro hnil
    rw [read?, hnil] at h
    cases h
  rw [read?, String.toList_append, dropMark_append hne, Reader.run_append]
  exact Reader.root_run h back.toList

/-- **A document that was cut off is not read.** -/
theorem read_of_isCutOff (d : Document) (hd : IsDeclaration d.declaration) (hi : IsIndent d.indent)
    (h : d.root.IsWellFormed) {front : String} (hcut : IsCutOff front d.render) :
    read? front = none := by
  obtain ⟨line, hblank, hrender, hline⟩ := exists_render_eq d
  obtain ⟨rest, hwrite, hroot⟩ := Reader.root_run_front h hi line.reverse
    fun c hc => hblank c (List.mem_reverse.1 hc)
  rw [hrender, hwrite, ← List.append_assoc, String.ofList_append, ← String.append_assoc] at hcut
  obtain ⟨back, hback⟩ := hcut.exists_append
  -- Not even all but the last character is read, so nothing in front of it is.
  have hunread : read? (front ++ back) = none := by
    rw [← hback, hd, String.toList_ofList, Reader.run_append, hline]
    exact hroot
  cases hread : read? front with
  | none => rfl
  | some root =>
    rw [read_append hread] at hunread
    cases hunread

end SpeakerHub.Markup
