/-
Module: RouteAtlas.Proofs.OpenApi.Handlers
Layer: Proofs
Purpose: Models that are told by the name of a view. From the name of a handler every `ViewSet` and every
  `View` is erased, those inside the name of a model too. So a view that is named after a model is known
  by its name exactly if the name of the model has no `View` in it; any other one needs a view set of the
  project to tell its model, and is taken for another model if one has the name that is left.
Trusted boundary: none
Main exports: IsPlaceholder, HasPlaceholdersAlone, modelOfRoute?_placeholders, erasedName,
  erasedName_handler, length_erasedName_lt, erasedName_eq_self, handler_recognised_iff
-/
import RouteAtlas.Proofs.OpenApi.Inference
import RouteAtlas.Proofs.Text.Erasure

namespace RouteAtlas.OpenApi

open Project (Inventory)

/-! ### Paths of placeholders -/

/-- A segment of a path that stands for any text. -/
def IsPlaceholder (segment : String) : Prop := ∃ name, segment = "\x7b" ++ name ++ "\x7d"

/-- A path whose segments are placeholders, as far as there is something between its slashes. -/
def HasPlaceholdersAlone (template : String) : Prop :=
  ∀ segment ∈ Text.split '/' template, segment = "" ∨ IsPlaceholder segment

section Inference

variable {inventory : Inventory} {template handler model suffix : String}

/-- Where the path tells nothing the handler is asked. -/
theorem modelOfRoute?_placeholders (placeholders : HasPlaceholdersAlone template) :
    modelOfRoute? inventory template (some handler) = modelOfHandler? inventory handler := by
  have silent : (Text.split '/' template).findSome? (modelOfSegment? inventory) = none := by
    rw [List.findSome?_eq_none_iff]
    intro segment member
    rcases placeholders segment member with rfl | ⟨name, rfl⟩
    · exact modelOfSegment?_empty
    · rw [String.append_assoc]
      exact modelOfSegment?_braced
  rw [modelOfRoute?, silent, Option.none_or, Option.bind_some]

/-! ### Names of views -/

/-- What is left of a name without every `ViewSet` and then without every `View`. -/
def erasedName (name : String) : String := Text.eraseAll "View" (Text.eraseAll "ViewSet" name)

theorem view_chars : "View".toList = 'V' :: "iew".toList := rfl

theorem viewSet_chars : "ViewSet".toList = 'V' :: "iewSet".toList := rfl

/-- What the name of a view ends in is erased, and nothing of it is taken together with the name of the
model before it: both erased words have one `V`, with which they begin. -/
theorem erasedName_handler (named : suffix = "ViewSet" ∨ suffix = "View") :
    erasedName (model ++ suffix) = erasedName model := by
  have starts : suffix.toList.head? = some 'V' := by
    rcases named with rfl | rfl
    · rfl
    · rfl
  have cut : Text.eraseAll "ViewSet" (model ++ suffix) =
      Text.eraseAll "ViewSet" model ++ Text.eraseAll "ViewSet" suffix :=
    Text.eraseAll_cut viewSet_chars (by decide) starts
  rw [erasedName, erasedName, cut]
  rcases named with rfl | rfl
  · have gone : Text.eraseAll "ViewSet" "ViewSet" = "" := by decide
    rw [gone, String.append_empty]
  · have kept : Text.eraseAll "ViewSet" "View" = "View" := by decide
    have gone : Text.eraseAll "View" "View" = "" := by decide
    rw [kept, Text.eraseAll_cut view_chars (by decide) rfl, gone, String.append_empty]

/-- A name with a `View` in it gets shorter. -/
theorem length_erasedName_lt (inside : "View".toList <:+: model.toList) :
    (erasedName model).length < model.length := by
  by_cases within : "ViewSet".toList <:+: model.toList
  · have bounded := Text.length_eraseAll_le view_chars (Text.eraseAll "ViewSet" model)
    exact bounded.trans_lt (Text.length_eraseAll_lt viewSet_chars within)
  · rw [erasedName, Text.eraseAll_of_absent viewSet_chars within]
    exact Text.length_eraseAll_lt view_chars inside

/-- Any other name stays. -/
theorem erasedName_eq_self (outside : ¬ "View".toList <:+: model.toList) : erasedName model = model := by
  have begins : "View".toList <+: "ViewSet".toList := by decide
  have within : ¬ "ViewSet".toList <:+: model.toList := fun inside =>
    outside (begins.isInfix.trans inside)
  rw [erasedName, Text.eraseAll_of_absent viewSet_chars within]
  exact Text.eraseAll_of_absent view_chars outside

/-- A view that is named after a model, on a path that tells nothing: it is found to be about the model, or
about one whose name differs in the case of letters, exactly if there is no `View` in the name of the
model, or if no model has the name that is left of it and the view set of the name of the handler is
about such a model. -/
theorem handler_recognised_iff (known : model ∈ inventory.models.keys)
    (placeholders : HasPlaceholdersAlone template) (named : suffix = "ViewSet" ∨ suffix = "View") :
    Recognises inventory template (some (model ++ suffix)) model ↔
      ¬ "View".toList <:+: model.toList ∨
        (∀ other ∈ inventory.models.keys, ¬ SameName other (erasedName model)) ∧
          ∃ viewSet found, KeyMap.find? (model ++ suffix) inventory.viewSets = some viewSet ∧
            inventory.modelOf? viewSet = some found ∧ SameName found model := by
  have asked : modelOfRoute? inventory template (some (model ++ suffix)) =
      (modelNamed? inventory (erasedName model)).or
        ((KeyMap.find? (model ++ suffix) inventory.viewSets).bind inventory.modelOf?) := by
    rw [modelOfRoute?_placeholders placeholders, ← erasedName_handler named]
    rfl
  rw [Recognises, asked, ← modelNamed?_eq_none_iff]
  by_cases inside : "View".toList <:+: model.toList
  · cases left : modelNamed? inventory (erasedName model) with
    | none =>
        simp only [Option.none_or, Option.bind_eq_some_iff, inside, not_true_eq_false, false_or,
          true_and]
        constructor
        · rintro ⟨found, ⟨viewSet, held, about⟩, same⟩
          exact ⟨viewSet, found, held, about, same⟩
        · rintro ⟨viewSet, found, held, about, same⟩
          exact ⟨found, ⟨viewSet, held, about⟩, same⟩
    | some other =>
        -- Another model is told, since its name is shorter.
        have shorter : other.length < model.length := by
          rw [(sameName_of_modelNamed? left).length_eq]
          exact length_erasedName_lt inside
        apply iff_of_false
        · rintro ⟨found, told, same⟩
          obtain rfl := Option.some.inj told
          exact absurd same.length_eq shorter.ne
        · rintro (outside | ⟨nobody, _⟩)
          · exact outside inside
          · cases nobody
  · obtain ⟨found, told, same⟩ := exists_modelNamed? known (rfl : SameName model model)
    rw [erasedName_eq_self inside, told]
    exact iff_of_true ⟨found, rfl, same⟩ (.inl inside)

end Inference

/-- A project whose only model has a `View` in its name, with a view set for it. -/
def pageProject : Inventory where
  models := [("PageView", { name := "PageView", fields := [] })]
  viewSets := [("PageViewViewSet", { name := "PageViewViewSet", bases := ["ModelViewSet"] })]

theorem idPath_placeholders : HasPlaceholdersAlone "/\x7bid\x7d/" := by
  have pieces : Text.split '/' "/\x7bid\x7d/" = ["", "\x7bid\x7d", ""] := by decide
  intro segment member
  rw [pieces] at member
  simp only [List.mem_cons, List.not_mem_nil, or_false] at member
  rcases member with rfl | rfl | rfl
  · exact .inl rfl
  · exact .inr ⟨"id", rfl⟩
  · exact .inl rfl

/-- The view set tells the model, for its name is cut at the end alone. -/
theorem pageViewSet_recognised :
    "PageView" ∈ pageProject.models.keys ∧ HasPlaceholdersAlone "/\x7bid\x7d/" ∧
      erasedName "PageView" = "Page" ∧
      Recognises pageProject "/\x7bid\x7d/" (some "PageViewViewSet") "PageView" := by
  have known : "PageView" ∈ pageProject.models.keys := by decide
  have nobody : ∀ other ∈ pageProject.models.keys, ¬ SameName other (erasedName "PageView") := by
    decide +kernel
  have about : pageProject.modelOf? { name := "PageViewViewSet", bases := ["ModelViewSet"] } =
      some "PageView" := by
    decide +kernel
  have recognised : Recognises pageProject "/\x7bid\x7d/" (some ("PageView" ++ "ViewSet")) "PageView" :=
    (handler_recognised_iff known idPath_placeholders (.inl rfl)).2
      (.inr ⟨nobody, _, _, rfl, about, rfl⟩)
  exact ⟨known, idPath_placeholders, by decide +kernel, recognised⟩

/-- A view of the same model that is no view set of the project has nothing but its name, of which `Page` is
left. -/
theorem pageView_unrecognised :
    "PageView" ∈ pageProject.models.keys ∧ HasPlaceholdersAlone "/\x7bid\x7d/" ∧
      modelOfRoute? pageProject "/\x7bid\x7d/" (some ("PageView" ++ "View")) = none ∧
      ¬ Recognises pageProject "/\x7bid\x7d/" (some ("PageView" ++ "View")) "PageView" := by
  have nothing : modelOfRoute? pageProject "/\x7bid\x7d/" (some ("PageView" ++ "View")) = none := by
    decide +kernel
  refine ⟨by decide, idPath_placeholders, nothing, ?_⟩
  rintro ⟨found, told, _⟩
  rw [nothing] at told
  cases told

end RouteAtlas.OpenApi
