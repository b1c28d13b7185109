import Mathlib.Data.List.Induction
import SpeakerHub.Discovery
import SpeakerHub.Proofs.Record.DeviceDocument

/-! # Merging what was found

A device that is found several times is merged and stored each time. The last host counts, and the
last name that is not empty. The product code is kept or replaced, depending on the code before it,
and loses a space at its end each time it is stored; still, to go through the same finds again
changes nothing.

* **`storedCode`** — the product code after one find; **`storedCode_of_isPrefix`**,
  **`storedCode_of_not`** — it is kept or replaced.
* **`lastCode`** — the product code after some finds; **`lastCode_eq_or_isPrefix`** — from another
  code, it is that code or the beginning of what comes from the first; **`lastCode_again`**.
* **`rediscovered`** — a record after some finds; **`rediscovered_eq`** — part by part.
* **`rediscovered_again`** — the same finds change nothing the second time. -/

namespace SpeakerHub

namespace Device

/-- A code that was cut and glued is kept. -/
theorem storedProductCode_stored (code : String) :
    storedProductCode (storedProductCode code) = storedProductCode code := by
  have hsplit := splitProductCode_stored code
  rw [storedProductCode, hsplit, ← storedProductCode]

/-- A code is cut and glued to itself, or loses a space at its end. -/
theorem eq_storedProductCode_or (code : String) :
    code = storedProductCode code ∨ code = storedProductCode code ++ " " := by
  by_cases hkept : storedProductCode code = code
  · exact .inl hkept.symm
  · rw [storedProductCode_eq_iff, not_not] at hkept
    obtain ⟨type, htype, rfl⟩ := hkept
    rw [storedProductCode_append_space htype]
    exact .inr rfl

/-- A code begins with what it is cut and glued to. -/
theorem storedProductCode_isPrefix (code : String) :
    (storedProductCode code).toList <+: code.toList := by
  rcases eq_storedProductCode_or code with heq | heq
  · simp only [← heq, List.prefix_rfl]
  · have hlist := congrArg String.toList heq
    rw [String.toList_append] at hlist
    rw [hlist]
    exact List.prefix_append _ _

end Device

namespace Discovery

open Device

/-! ## Product codes -/

/-- The product code that is stored after a model was found. -/
def storedCode (known model : String) : String :=
  storedProductCode (productCode model known)

section

variable {known model : String}

/-- A code that begins with the model is kept. -/
theorem storedCode_of_isPrefix (h : model.toList <+: known.toList) :
    storedCode known model = storedProductCode known := by
  have hkept : (model.isEmpty || model.toList.isPrefixOf known.toList) = true := by
    rw [List.isPrefixOf_iff_prefix.2 h, Bool.or_true]
  rw [storedCode, productCode, if_pos hkept]

/-- Another one is replaced. -/
theorem storedCode_of_not (h : ¬model.toList <+: known.toList) :
    storedCode known model = storedProductCode model := by
  have hreplaced : ¬(model.isEmpty || model.toList.isPrefixOf known.toList) = true := by
    rw [Bool.or_eq_true, List.isPrefixOf_iff_prefix, not_or]
    refine ⟨fun hempty => h ?_, h⟩
    rw [String.isEmpty_iff.1 hempty]
    exact List.nil_prefix
  rw [storedCode, productCode, if_neg hreplaced]

/-- What is stored is stored as it is. -/
theorem storedProductCode_storedCode (known model : String) :
    storedProductCode (storedCode known model) = storedCode known model :=
  storedProductCode_stored _

/-- It does not matter whether the code was stored before. -/
theorem storedCode_stored (known model : String) :
    storedCode (storedProductCode known) model = storedCode known model := by
  by_cases hkept : model.toList <+: (storedProductCode known).toList
  · rw [storedCode_of_isPrefix hkept,
      storedCode_of_isPrefix (hkept.trans (storedProductCode_isPrefix known)),
      storedProductCode_stored]
  · rw [storedCode_of_not hkept]
    by_cases hlong : model.toList <+: known.toList
    · -- Then the model is the code, with the space at its end that is lost.
      have hlist : known.toList = (storedProductCode known).toList ++ [' '] := by
        rcases eq_storedProductCode_or known with heq | heq
        · rw [← heq] at hkept
          exact absurd hlong hkept
        · have happend := congrArg String.toList heq
          rwa [String.toList_append] at happend
      have hmodel : model.toList = known.toList := by
        rw [hlist] at hlong ⊢
        exact (List.prefix_concat_iff.1 hlong).resolve_right hkept
      rw [storedCode_of_isPrefix hlong, String.toList_inj.1 hmodel]
    · rw [storedCode_of_not hlong]

end

/-- The product code after some models were found. -/
def lastCode (models : List String) (known : String) : String :=
  models.foldl storedCode known

@[simp] theorem lastCode_nil (known : String) : lastCode [] known = known := rfl

@[simp] theorem lastCode_cons (model : String) (models : List String) (known : String) :
    lastCode (model :: models) known = lastCode models (storedCode known model) := by
  rw [lastCode, lastCode, List.foldl_cons]

@[simp] theorem lastCode_concat (models : List String) (model known : String) :
    lastCode (models ++ [model]) known = storedCode (lastCode models known) model :=
  List.foldl_concat _ _ _ _

section

variable {models : List String} {known other : String}

/-- A stored code stays a stored code. -/
theorem storedProductCode_lastCode (hknown : storedProductCode known = known)
    (models : List String) :
    storedProductCode (lastCode models known) = lastCode models known := by
  induction models using List.reverseRecOn with
  | nil => exact hknown
  | append_singleton models model ih =>
    rw [lastCode_concat, storedProductCode_storedCode]

/-- **Two codes that the same models are found after** are followed closely: what comes of one is
this code itself, or the beginning of what comes of the other. -/
theorem lastCode_eq_or_isPrefix (hknown : storedProductCode known = known)
    (hother : storedProductCode other = other) (models : List String) :
    lastCode models other = other
      ∨ (lastCode models other).toList <+: (lastCode models known).toList := by
  -- From the end, since the last of the models that replaces a code is the one that counts.
  induction models using List.reverseRecOn with
  | nil => exact .inl rfl
  | append_singleton models model ih =>
    rw [lastCode_concat, lastCode_concat]
    by_cases hkept : model.toList <+: (lastCode models other).toList
    · rw [storedCode_of_isPrefix hkept, storedProductCode_lastCode hother]
      refine ih.imp_right fun hprefix => ?_
      rwa [storedCode_of_isPrefix (hkept.trans hprefix), storedProductCode_lastCode hknown]
    · -- A model that replaces the one code replaces the other, or is the beginning of it.
      right
      rw [storedCode_of_not hkept]
      by_cases hlong : model.toList <+: (lastCode models known).toList
      · rw [storedCode_of_isPrefix hlong, storedProductCode_lastCode hknown]
        exact (storedProductCode_isPrefix model).trans hlong
      · simp only [storedCode_of_not hlong, List.prefix_rfl]

/-- **The same models** change a stored code no more the second time. -/
theorem lastCode_again_of_stored (hknown : storedProductCode known = known)
    (models : List String) : lastCode models (lastCode models known) = lastCode models known := by
  induction models using List.reverseRecOn with
  | nil => rfl
  | append_singleton models model ih =>
    rw [lastCode_concat, lastCode_concat]
    by_cases hkept : model.toList <+: (lastCode models known).toList
    · rw [storedCode_of_isPrefix hkept, storedProductCode_lastCode hknown, ih,
        storedCode_of_isPrefix hkept, storedProductCode_lastCode hknown]
    · -- The last replacement decides: no code that it is followed by begins with the model.
      have hstored := storedProductCode_stored model
      rw [storedCode_of_not hkept]
      rcases lastCode_eq_or_isPrefix hknown hstored models with heq | hprefix
      · rw [heq]
        by_cases hsame : model.toList <+: (storedProductCode model).toList
        · rw [storedCode_of_isPrefix hsame, hstored]
        · rw [storedCode_of_not hsame]
      · rw [storedCode_of_not fun h => hkept (h.trans hprefix)]

/-- So it is for every code. -/
theorem lastCode_again (models : List String) (known : String) :
    lastCode models (lastCode models known) = lastCode models known := by
  cases models with
  | nil => rfl
  | cons model models =>
    have hfirst (code : String) : lastCode (model :: models) code
        = lastCode (model :: models) (storedProductCode code) := by
      rw [lastCode_cons, lastCode_cons, storedCode_stored]
    rw [hfirst known]
    exact lastCode_again_of_stored (storedProductCode_stored known) (model :: models)

end

/-! ## Records -/

/-- What was found says a name, unless that is empty. -/
def Found.name? (f : Found) : Option String :=
  LiveIdentity.said f.name

/-- The record of a device after it was found some times, and stored each time. -/
def rediscovered (found : List Found) (known : Device) : Device :=
  found.foldl (fun device f => (merged f device).stored) known

@[simp] theorem rediscovered_nil (known : Device) : rediscovered [] known = known := rfl

@[simp] theorem rediscovered_cons (f : Found) (found : List Found) (known : Device) :
    rediscovered (f :: found) known = rediscovered found (merged f known).stored := by
  rw [rediscovered, rediscovered, List.foldl_cons]

@[simp] theorem rediscovered_concat (found : List Found) (f : Found) (known : Device) :
    rediscovered (found ++ [f]) known = (merged f (rediscovered found known)).stored :=
  List.foldl_concat _ _ _ _

/-- **A record after some finds**: the last name and the last host, and the product code after all
models. The rest is as before. -/
theorem rediscovered_eq (found : List Found) (known : Device) :
    rediscovered found known = { known with
      name := (found.filterMap Found.name?).getLast?.getD known.name
      productCode := lastCode (found.map (·.model)) known.productCode
      address := (found.map (·.host)).getLast?.getD known.address } := by
  induction found using List.reverseRecOn with
  | nil => rfl
  | append_singleton found f ih =>
    have hname : (if f.name.isEmpty then (rediscovered found known).name else f.name)
        = (((found ++ [f]).filterMap Found.name?).getLast?).getD known.name := by
      rw [List.filterMap_append, List.getLast?_append, ih]
      cases hempty : f.name.isEmpty <;> simp [Found.name?, LiveIdentity.said, hempty]
    rw [rediscovered_concat, merged, hname, stored, ih]
    simp [storedCode]

/-- A record that was found was stored. -/
theorem stored_rediscovered {found : List Found} (hfound : found ≠ []) (known : Device) :
    (rediscovered found known).stored = rediscovered found known := by
  obtain ⟨front, f, rfl⟩ := (List.eq_nil_or_concat found).resolve_left hfound
  rw [List.concat_eq_append, rediscovered_concat, stored, stored, storedProductCode_stored]

/-- **The same finds** change nothing the second time. -/
theorem rediscovered_again (found : List Found) (known : Device) :
    rediscovered found (rediscovered found known) = rediscovered found known := by
  have htwice {α : Type} (x? : Option α) (a : α) : x?.getD (x?.getD a) = x?.getD a := by
    cases x? <;> rfl
  rw [rediscovered_eq found known, rediscovered_eq]
  simp only [htwice, lastCode_again]

end Discovery

end SpeakerHub
