/-
Module: RouteAtlas.Proofs.OpenApi.Inference
Layer: Proofs
Purpose: What it takes for a route to tell its model. Models are looked up by name, whatever the case of
  its letters; the segments of a path are asked one after the other, and those that are empty or
  placeholders tell nothing.
Trusted boundary: none
Main exports: SameName, exists_modelNamed?, modelNamed?_eq_none_iff, Recognises, singular,
  modelOfSegment?_eq, modelOfSegment?_told, modelOfRoute?_absolute, modelOfRoute?_cons
-/
import RouteAtlas.Proofs.Naming.Endpoint
import RouteAtlas.Proofs.OpenApi.References
import RouteAtlas.Proofs.Text.Pieces

namespace RouteAtlas

namespace OpenApi

open Project (Inventory)

/-! ### Names of models -/

/-- Two names that differ in the case of ASCII letters at most. -/
def SameName (first second : String) : Prop :=
  Text.asciiLowercase first = Text.asciiLowercase second

instance (first second : String) : Decidable (SameName first second) :=
  inferInstanceAs (Decidable (Text.asciiLowercase first = Text.asciiLowercase second))

section Names

variable {inventory : Inventory} {name other model : String}

theorem SameName.toList_eq (same : SameName name other) :
    name.toList.map Char.toLower = other.toList.map Char.toLower := by
  have chars := congrArg String.toList same
  rwa [Text.asciiLowercase, Text.asciiLowercase, String.toList_ofList, String.toList_ofList] at chars

theorem SameName.length_eq (same : SameName name other) : name.length = other.length := by
  have lengths := congrArg List.length same.toList_eq
  rwa [List.length_map, List.length_map, String.length_toList, String.length_toList] at lengths

theorem sameName_of_modelNamed? (found : modelNamed? inventory name = some other) :
    SameName other name := by
  have same := List.find?_some found
  exact beq_iff_eq.1 same

/-- A model is found under each name that is its own but for the case of letters. -/
theorem exists_modelNamed? (known : model ∈ inventory.models.keys) (same : SameName model name) :
    ∃ found, modelNamed? inventory name = some found ∧ SameName found name := by
  cases found : modelNamed? inventory name with
  | none => exact absurd (beq_iff_eq.2 same) (List.find?_eq_none.1 found model known)
  | some other => exact ⟨other, rfl, sameName_of_modelNamed? found⟩

theorem modelNamed?_eq_none_iff :
    modelNamed? inventory name = none ↔
      ∀ other ∈ inventory.models.keys, ¬ SameName other name := by
  rw [modelNamed?, List.find?_eq_none]
  simp only [beq_iff_eq, SameName]

end Names

/-- A route with the path and the handler is found to be about a model of the name, or of one that differs
from it in the case of letters. -/
def Recognises (inventory : Inventory) (template : String) (handler : Option String) (model : String) :
    Prop :=
  ∃ found, modelOfRoute? inventory template handler = some found ∧ SameName found model

/-! ### Segments of a path -/

/-- A segment without a version at its beginning, and without all `s` at its end. -/
def singular (segment : String) : String :=
  String.ofList (Text.trimEndWhere (· = 's') (withoutVersion segment).toList)

section Segments

variable {inventory : Inventory} {segment rest : String}

/-- A segment of plain characters tells a model by its name or by its endpoint. -/
theorem modelOfSegment?_eq (plain : Text.IsSegment segment.toList) :
    modelOfSegment? inventory segment =
      (modelNamed? inventory (singular segment)).or
        (inventory.models.keys.find? fun model =>
          Naming.endpointName model == withoutVersion segment) := by
  have nonempty : segment ≠ "" := by
    rintro rfl
    exact plain.nonempty rfl
  have unbraced : Text.hasPrefix "\x7b" segment = false := by
    rw [Bool.eq_false_iff, ne_eq, Text.hasPrefix_iff]
    rintro ⟨rest, rfl⟩
    exact absurd (plain.plain '\x7b' (by simp)) (by decide)
  rw [modelOfSegment?, if_neg (by simp [nonempty, unbraced])]
  rfl

/-- A model that is told has the name that is left of the segment, or the endpoint. -/
theorem modelOfSegment?_told {found : String} (plain : Text.IsSegment segment.toList)
    (told : modelOfSegment? inventory segment = some found) :
    SameName found (singular segment) ∨ Naming.endpointName found = withoutVersion segment := by
  rw [modelOfSegment?_eq plain] at told
  rcases Option.or_eq_some_iff.1 told with named | ⟨_, endpoint⟩
  · exact .inl (sameName_of_modelNamed? named)
  · have matched := List.find?_some endpoint
    exact .inr (by simpa only [beq_iff_eq] using matched)

theorem modelOfSegment?_empty : modelOfSegment? inventory "" = none := rfl

theorem modelOfSegment?_braced : modelOfSegment? inventory ("\x7b" ++ rest) = none := by
  have braced : Text.hasPrefix "\x7b" ("\x7b" ++ rest) = true := (Text.hasPrefix_iff _ _).2 ⟨rest, rfl⟩
  rw [modelOfSegment?, braced, Bool.or_true]
  rfl

/-- A path is asked segment by segment. -/
theorem modelOfRoute?_slash (slashless : '/' ∉ segment.toList) (rest : String) :
    modelOfRoute? inventory (segment ++ ("/" ++ rest)) none =
      (modelOfSegment? inventory segment).or (modelOfRoute? inventory rest none) := by
  rw [modelOfRoute?, modelOfRoute?, Text.split_slash slashless, List.findSome?_cons]
  cases modelOfSegment? inventory segment with
  | none => rfl
  | some model => rfl

theorem modelOfRoute?_slashless (slashless : '/' ∉ segment.toList) :
    modelOfRoute? inventory segment none = modelOfSegment? inventory segment := by
  rw [modelOfRoute?, Text.split_slashless slashless, List.findSome?_singleton, Option.bind_none,
    Option.or_none]

/-- Nothing stands before the first slash of a path. -/
theorem modelOfRoute?_absolute (rest : String) :
    modelOfRoute? inventory ("/" ++ rest) none = modelOfRoute? inventory rest none := by
  have first : modelOfRoute? inventory ("" ++ ("/" ++ rest)) none =
      (modelOfSegment? inventory "").or (modelOfRoute? inventory rest none) :=
    modelOfRoute?_slash List.not_mem_nil rest
  rwa [String.empty_append, modelOfSegment?_empty, Option.none_or] at first

/-- The first segment of a path is asked before the others. -/
theorem modelOfRoute?_cons (slashless : '/' ∉ segment.toList)
    (ends : rest = "" ∨ ∃ more, rest = "/" ++ more) :
    modelOfRoute? inventory ("/" ++ segment ++ rest) none =
      (modelOfSegment? inventory segment).or (modelOfRoute? inventory rest none) := by
  rw [String.append_assoc, modelOfRoute?_absolute]
  rcases ends with rfl | ⟨more, rfl⟩
  · have nothing : modelOfRoute? inventory "" none = none := rfl
    rw [String.append_empty, modelOfRoute?_slashless slashless, nothing, Option.or_none]
  · rw [modelOfRoute?_slash slashless, modelOfRoute?_absolute]

end Segments

end OpenApi

end RouteAtlas
