import Mathlib.Data.List.DropRight
import SpeakerHub.Migration
import SpeakerHub.Proofs.Markup.Faithful

/-! # The planned file

The file that points a speaker at a target has seven fields, four of them with the target in them.
Any text may be a target. Whatever it holds, the speaker reads the fields as they are meant, and two
targets have the same file only if they differ in the slashes at their ends.

* **`Migration.withoutSlashes_spec`** — what is left of a target without these slashes.
* **`Migration.configFields`**, **`configTree`** — the fields, and the tree that they are read as.
* **`Migration.plannedConfig_eq`** — the file as a document; **`read_plannedConfig`** — what is read
  of it.
* **`planned_config_says_target`** — the file says what its target is. -/

namespace SpeakerHub

open Markup

namespace Markup

/-- **A document reads back as its root**, with the attributes of every element resolved. -/
theorem Document.ofText?_render {d : Document} (hd : IsXmlDeclaration d.declaration)
    (hi : IsIndent d.indent) (h : d.root.IsWellFormed) :
    Element.ofText? d.render = some (d.root.joined id) := by
  rw [Element.ofText?, read_render d hd.isDeclaration hi h]
  exact Element.resolve_joined h

/-- Different texts are different nodes, or one of them is none. -/
theorem textNodes_inj {α : Type} {s t : List Char} :
    (textNodes s : List (Node α)) = textNodes t ↔ s = t := by
  unfold textNodes
  split <;> split <;> simp_all [String.ofList_inj]

/-- A bare element with one leaf for each of some fields, names and texts, is read as it is. A leaf
with an empty text holds none. -/
theorem Element.joined_fields (name : String) (fields : List (String × String)) :
    ((Element.named name).append (fields.map fun f => .leaf f.1 f.2)).joined id
      = { name, attributes := []
          children := fields.map fun f => .element f.1 [] (textNodes f.2.toList) } := by
  have hchildren : ((Element.named name).append (fields.map fun f => .leaf f.1 f.2)).children
      = (fields.map fun f => Element.leaf f.1 f.2).map Element.toNode := List.nil_append _
  rw [Element.joined, hchildren, Node.joinedAll_map_toNode, List.map_map]
  rfl

end Markup

namespace Migration

/-! ## Targets -/

/-- **A target without the slashes it ends with** has none at its end, and is the target up to
them. -/
theorem withoutSlashes_spec (target : String) :
    (∃ n, target.toList = (withoutSlashes target).toList ++ List.replicate n '/')
      ∧ ¬['/'] <:+ (withoutSlashes target).toList := by
  have hkept : (withoutSlashes target).toList = target.toList.rdropWhile (· == '/') :=
    String.toList_ofList
  have hdropped : ∀ c ∈ target.toList.rtakeWhile (· == '/'), c = '/' := by
    intro c hc
    simpa using List.mem_rtakeWhile_imp hc
  rw [hkept]
  constructor
  · refine ⟨(target.toList.rtakeWhile (· == '/')).length, ?_⟩
    rw [← List.eq_replicate_of_mem hdropped, List.rdropWhile_append_rtakeWhile]
  · rintro ⟨front, hfront⟩
    have hne : target.toList.rdropWhile (· == '/') ≠ [] := by
      simp [← hfront]
    apply List.rdropWhile_last_not _ _ hne
    simp [← hfront]

/-! ## The file -/

/-- The fields of the file for a target without slashes at its end: names and values. -/
def configFields (target : String) : List (String × String) :=
  [("margeServerUrl", target ++ "/marge"),
    ("statsServerUrl", target),
    ("swUpdateUrl", target ++ "/updates/soundtouch"),
    ("usePandoraProductionServer", "true"),
    ("isZeroconfEnabled", "true"),
    ("saveMargeCustomerReport", "false"),
    ("bmxRegistryUrl", target ++ "/bmx/registry/v1/services")]

/-- The tree that is read of fields: a bare root, and in it a bare element for each field. A field
with an empty value holds no text. -/
def configTree (fields : List (String × String)) : Element Attributes where
  name := "SoundTouchSdkPrivateCfg"
  attributes := []
  children := fields.map fun f => .element f.1 [] (textNodes f.2.toList)

/-- The document of the file. -/
def configDocument (target : String) : Document where
  declaration := "<?xml version=\"1.0\" encoding=\"utf-8\"?>"
  indent := some "  "
  root := (Element.named "SoundTouchSdkPrivateCfg").append
    ((configFields (withoutSlashes target)).map fun f => .leaf f.1 f.2)

/-- The file is the text of its document. -/
theorem plannedConfig_eq (target : String) :
    plannedConfig target = (configDocument target).render :=
  rfl

/-- Its declaration is one. -/
theorem isXmlDeclaration_configDocument (target : String) :
    IsXmlDeclaration (configDocument target).declaration :=
  have hdeclaration : IsXmlDeclaration "<?xml version=\"1.0\" encoding=\"utf-8\"?>" :=
    ⟨" version=\"1.0\" encoding=\"utf-8\"".toList, by decide +kernel, by decide +kernel⟩
  hdeclaration

/-- Its lines are indented by blanks. -/
theorem isIndent_configDocument (target : String) : IsIndent (configDocument target).indent := by
  simp [configDocument, IsIndent, isBlank]

/-- Its root can be written, since no name in it depends on the target. -/
theorem isWellFormed_configDocument (target : String) :
    (configDocument target).root.IsWellFormed := by
  simp +decide [configDocument, configFields]

/-- **The file is read** as its fields. -/
theorem read_plannedConfig (target : String) : Element.ofText? (plannedConfig target)
    = some (configTree (configFields (withoutSlashes target))) := by
  rw [plannedConfig_eq, Document.ofText?_render (isXmlDeclaration_configDocument target)
    (isIndent_configDocument target) (isWellFormed_configDocument target)]
  exact congrArg some (Element.joined_fields _ _)

/-- Fields say which target they are for. -/
theorem configTree_inj {s t : String} :
    configTree (configFields s) = configTree (configFields t) ↔ s = t := by
  refine ⟨fun h => ?_, fun h => h ▸ rfl⟩
  have hchildren := congrArg Element.children h
  -- The second field is the target as it is.
  have hsecond := congrArg (·[1]?) hchildren
  have hnode := Option.some.inj hsecond
  obtain ⟨-, -, htext⟩ := Node.element.inj hnode
  exact String.toList_inj.1 (textNodes_inj.1 htext)

/-- **The planned file is well formed and says its target.** Whatever text is the target, the file
is a well-nested document. What is read of it is a root with exactly seven fields in their order:
four addresses that begin with the target, but for the slashes at its end, byte for byte, and three
flags. Two targets have the same file exactly if they are the same without these slashes. -/
theorem planned_config_says_target (target : String) :
    IsDocumentText (plannedConfig target)
      ∧ Element.ofText? (plannedConfig target)
        = some (configTree (configFields (withoutSlashes target)))
      ∧ ((∃ n, target.toList = (withoutSlashes target).toList ++ List.replicate n '/')
        ∧ ¬['/'] <:+ (withoutSlashes target).toList)
      ∧ ∀ other, plannedConfig target = plannedConfig other
        ↔ withoutSlashes target = withoutSlashes other := by
  refine ⟨?_, read_plannedConfig target, withoutSlashes_spec target, fun other => ?_⟩
  · rw [plannedConfig_eq]
    exact Document.isDocumentText_render (isXmlDeclaration_configDocument target)
      (isIndent_configDocument target) (isWellFormed_configDocument target)
  · constructor
    · intro hsame
      have hread := read_plannedConfig target
      rw [hsame, read_plannedConfig other] at hread
      exact (configTree_inj.1 (Option.some.inj hread)).symm
    · intro hsame
      rw [plannedConfig, hsame, ← plannedConfig]

end Migration

end SpeakerHub
