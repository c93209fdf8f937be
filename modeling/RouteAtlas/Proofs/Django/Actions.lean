/-
Module: RouteAtlas.Proofs.Django.Actions
Layer: Proofs
Purpose: The standard actions of a view set. A base class grants those of its entry in the table, and a
  plain base class leaves them to the methods of the class. A view set has the actions that come about in
  one of these ways, in the standard order, and two of the actions if there is none. So it does not matter
  in which order or how often bases and methods are written down.
Trusted boundary: none
Main exports: ViewSet.Grants, ViewSet.IsPlain, ViewSet.Enables, ViewSet.mem_definedActions_ofClass?,
  ViewSet.mem_actions_iff, ViewSet.actions_congr, ViewSet.actions_determined
-/
import RouteAtlas.Django.ViewSet

namespace RouteAtlas

namespace Django

namespace Action

theorem mem_all (action : Action) : action ∈ all := by
  cases action <;> decide

theorem parse?_eq_some {text : String} {action : Action} :
    parse? text = some action ↔ text = action.name := by
  constructor
  · intro found
    have named := List.find?_some found
    exact (beq_iff_eq.1 named).symm
  · rintro rfl
    exact parse?_name action

end Action

namespace ViewSet

/-! ### The methods of the class -/

/-- The standard action that a statement of the class body defines. -/
def definedAction? : Python.Stmt → Option Action
  | .function name _ _ => Action.parse? name
  | _ => none

theorem definedAction?_eq_some {stmt : Python.Stmt} {action : Action} :
    definedAction? stmt = some action ↔
      ∃ decorators body, stmt = .function action.name decorators body := by
  cases stmt with
  | function name decorators body => simp [definedAction?, Action.parse?_eq_some]
  | _ => simp [definedAction?]

/-- A statement adds the action that it defines, if it defines one. -/
theorem learn_definedActions (viewSet : ViewSet) (stmt : Python.Stmt) :
    (viewSet.learn stmt).definedActions =
      viewSet.definedActions ++ (definedAction? stmt).toList := by
  cases stmt with
  | assign targets value =>
      have nothing : definedAction? (.assign targets value) = none := rfl
      rw [nothing, Option.toList_none, List.append_nil, learn]
      split
      · rfl
      · rfl
      · rfl
  | function name decorators body => rfl
  | _ => exact (List.append_nil _).symm

theorem foldl_learn_definedActions (body : List Python.Stmt) (viewSet : ViewSet) :
    (body.foldl learn viewSet).definedActions =
      viewSet.definedActions ++ body.filterMap definedAction? := by
  induction body generalizing viewSet with
  | nil => exact (List.append_nil _).symm
  | cons stmt rest ih =>
      rw [List.foldl_cons, ih, learn_definedActions, List.append_assoc]
      cases means : definedAction? stmt with
      | none => rw [List.filterMap_cons_none means, Option.toList_none, List.nil_append]
      | some action => rw [List.filterMap_cons_some means, Option.toList_some, List.singleton_append]

/-- A class defines a standard action exactly if its body has a method of that name. -/
theorem mem_definedActions_ofClass? {decl : Python.ClassDecl} {viewSet : ViewSet}
    (defines : ofClass? decl = some viewSet) (action : Action) :
    action ∈ viewSet.definedActions ↔
      ∃ decorators body, Python.Stmt.function action.name decorators body ∈ decl.body := by
  obtain ⟨_, learned⟩ := Option.ite_none_right_eq_some.1 defines
  rw [← Option.some.inj learned, foldl_learn_definedActions, List.nil_append, List.mem_filterMap]
  simp only [definedAction?_eq_some]
  constructor
  · rintro ⟨_, member, decorators, body, rfl⟩
    exact ⟨decorators, body, member⟩
  · rintro ⟨decorators, body, member⟩
    exact ⟨_, member, decorators, body, rfl⟩

/-! ### Enabled actions -/

/-- A base class grants an action if its entry in the table has it. -/
def Grants (base : String) (action : Action) : Prop :=
  ∃ granted, grantedBy? base = some granted ∧ action ∈ granted

/-- A plain base class, which leaves the actions to the class. -/
def IsPlain (base : String) : Prop := base = "ViewSet" ∨ base = "GenericViewSet"

/-- An action is enabled if a base grants it, or if a base is plain and the class defines it. -/
def Enables (viewSet : ViewSet) (action : Action) : Prop :=
  (∃ base ∈ viewSet.bases, Grants base action) ∨
    (∃ base ∈ viewSet.bases, IsPlain base) ∧ action ∈ viewSet.definedActions

/-- The table has no entry for a plain base class. -/
theorem IsPlain.grantedBy?_eq_none {base : String} (plain : IsPlain base) : grantedBy? base = none := by
  rcases plain with rfl | rfl
  · rfl
  · rfl

variable {viewSet other : ViewSet} {action : Action}

theorem mem_enabledBy_iff {base : String} :
    action ∈ viewSet.enabledBy base ↔
      Grants base action ∨ IsPlain base ∧ action ∈ viewSet.definedActions := by
  rw [enabledBy, Grants]
  cases entry : grantedBy? base with
  | some granted =>
      have notPlain : ¬ IsPlain base := fun plain => by
        rw [plain.grantedBy?_eq_none] at entry
        cases entry
      simp [notPlain]
  | none => simp [IsPlain]

theorem mem_enabled_iff :
    action ∈ viewSet.bases.flatMap viewSet.enabledBy ↔ viewSet.Enables action := by
  simp only [List.mem_flatMap, mem_enabledBy_iff, Enables]
  constructor
  · rintro ⟨base, member, grants | ⟨plain, defined⟩⟩
    · exact .inl ⟨base, member, grants⟩
    · exact .inr ⟨⟨base, member, plain⟩, defined⟩
  · rintro (⟨base, member, grants⟩ | ⟨⟨base, member, plain⟩, defined⟩)
    · exact ⟨base, member, .inl grants⟩
    · exact ⟨base, member, .inr ⟨plain, defined⟩⟩

/-- What is enabled is read off the members of both lists alone. -/
theorem enables_congr (bases : ∀ base, base ∈ other.bases ↔ base ∈ viewSet.bases)
    (defined : ∀ action, action ∈ other.definedActions ↔ action ∈ viewSet.definedActions) :
    other.Enables action ↔ viewSet.Enables action := by
  simp only [Enables, bases, defined]

/-! ### The actions of a view set -/

/-- The actions are the enabled ones in the standard order, or those of the fallback if none is enabled. -/
theorem actions_cases (viewSet : ViewSet) :
    (∃ action, viewSet.Enables action) ∧
        viewSet.actions = Action.all.filter (viewSet.bases.flatMap viewSet.enabledBy).contains ∨
      (∀ action, ¬ viewSet.Enables action) ∧ viewSet.actions = fallbackActions := by
  rw [actions]
  cases kept : Action.all.filter (viewSet.bases.flatMap viewSet.enabledBy).contains with
  | nil =>
      refine .inr ⟨fun action enabled => ?_, rfl⟩
      have passed := List.filter_eq_nil_iff.1 kept action action.mem_all
      exact passed (List.contains_iff_mem.2 (mem_enabled_iff.2 enabled))
  | cons first rest =>
      have member := kept ▸ List.mem_cons_self
      have enabled := List.contains_iff_mem.1 (List.mem_filter.1 member).2
      exact .inl ⟨⟨first, mem_enabled_iff.1 enabled⟩, rfl⟩

/-- A view set has the enabled actions, or `list` and `retrieve` if none is enabled. -/
theorem mem_actions_iff :
    action ∈ viewSet.actions ↔ viewSet.Enables action ∨
      (∀ other, ¬ viewSet.Enables other) ∧ (action = .list ∨ action = .retrieve) := by
  rcases viewSet.actions_cases with ⟨⟨known, enabled⟩, kept⟩ | ⟨nothing, fallback⟩
  · have notEmpty : ¬ ∀ other, ¬ viewSet.Enables other := fun nothing => nothing known enabled
    rw [kept, List.mem_filter, List.contains_iff_mem, mem_enabled_iff]
    simp [notEmpty, action.mem_all]
  · simp [fallback, fallbackActions, nothing]

theorem actions_ne_nil (viewSet : ViewSet) : viewSet.actions ≠ [] := by
  rcases viewSet.actions_cases with ⟨⟨known, enabled⟩, _⟩ | ⟨_, fallback⟩
  · exact List.ne_nil_of_mem (mem_actions_iff.2 (.inl enabled))
  · rw [fallback]
    decide

theorem actions_sublist (viewSet : ViewSet) : viewSet.actions.Sublist Action.all := by
  rcases viewSet.actions_cases with ⟨_, kept⟩ | ⟨_, fallback⟩
  · rw [kept]
    exact List.filter_sublist
  · rw [fallback]
    decide

theorem actions_nodup (viewSet : ViewSet) : viewSet.actions.Nodup :=
  viewSet.actions_sublist.nodup (by decide)

/-- View sets with the same members of both lists have the same actions in the same order. -/
theorem actions_congr (bases : ∀ base, base ∈ other.bases ↔ base ∈ viewSet.bases)
    (defined : ∀ action, action ∈ other.definedActions ↔ action ∈ viewSet.definedActions) :
    other.actions = viewSet.actions := by
  have same : ∀ action, action ∈ other.bases.flatMap other.enabledBy ↔
      action ∈ viewSet.bases.flatMap viewSet.enabledBy := fun action => by
    rw [mem_enabled_iff, mem_enabled_iff, enables_congr bases defined]
  have kept : Action.all.filter (other.bases.flatMap other.enabledBy).contains =
      Action.all.filter (viewSet.bases.flatMap viewSet.enabledBy).contains :=
    List.filter_congr fun action _ => Bool.eq_iff_iff.2 (by
      rw [List.contains_iff_mem, List.contains_iff_mem, same])
  rw [actions, actions, kept]

/-- The standard actions of every view set. There is at least one, none comes twice, and they are in the
standard order. They are the enabled ones, or `list` and `retrieve` if none is enabled, and the class
defines an action if it has a method of that name. View sets with the same bases and the same defined
actions, in any order and any number, have the same actions. -/
theorem actions_determined (viewSet : ViewSet) :
    viewSet.actions ≠ [] ∧ viewSet.actions.Nodup ∧ viewSet.actions.Sublist Action.all ∧
    (∀ action, action ∈ viewSet.actions ↔ viewSet.Enables action ∨
      (∀ other, ¬ viewSet.Enables other) ∧ (action = .list ∨ action = .retrieve)) ∧
    (∀ decl, ofClass? decl = some viewSet → ∀ action, action ∈ viewSet.definedActions ↔
      ∃ decorators body, Python.Stmt.function action.name decorators body ∈ decl.body) ∧
    ∀ other : ViewSet, (∀ base, base ∈ other.bases ↔ base ∈ viewSet.bases) →
      (∀ action, action ∈ other.definedActions ↔ action ∈ viewSet.definedActions) →
        other.actions = viewSet.actions := by
  refine ⟨viewSet.actions_ne_nil, viewSet.actions_nodup, viewSet.actions_sublist, ?_, ?_, ?_⟩
  · intro action
    exact mem_actions_iff
  · intro decl defines
    exact mem_definedActions_ofClass? defines
  · intro other bases defined
    exact actions_congr bases defined

/-- A class with a base that grants an action, a plain one, and one of which nothing is known. -/
def memoClass : Python.ClassDecl where
  name := "MemoViewSet"
  bases := [.attribute (.name "mixins") "CreateModelMixin", .name "Audited",
    .attribute (.name "viewsets") "GenericViewSet"]
  body := [.function "destroy" [] [.simple], .function "close" [] [.simple],
    .function "create" [] [.simple]]

/-- The view set of the class. -/
def memoSet : ViewSet where
  name := "MemoViewSet"
  bases := ["CreateModelMixin", "Audited", "GenericViewSet"]
  definedActions := [.destroy, .create]

/-- The same with bases and methods in another order, some of them twice. -/
def mixedMemoSet : ViewSet where
  name := "MemoViewSet"
  bases := ["GenericViewSet", "CreateModelMixin", "GenericViewSet", "Audited"]
  definedActions := [.create, .destroy, .create]

theorem memoSet_determined :
    ofClass? memoClass = some memoSet ∧ memoSet.actions = [.create, .destroy] ∧
      mixedMemoSet.actions = memoSet.actions ∧ .update ∉ memoSet.actions ∧
      ∃ decorators body, Python.Stmt.function "destroy" decorators body ∈ memoClass.body := by
  have defines : ofClass? memoClass = some memoSet := by decide +kernel
  have bases : ∀ base, base ∈ mixedMemoSet.bases ↔ base ∈ memoSet.bases := by
    simp only [mixedMemoSet, memoSet, List.mem_cons, List.not_mem_nil, or_false]
    grind
  have defined : ∀ action, action ∈ mixedMemoSet.definedActions ↔ action ∈ memoSet.definedActions := by
    intro action
    cases action <;> decide
  obtain ⟨_, _, _, _, ofBody, alike⟩ := actions_determined memoSet
  exact ⟨defines, by decide, alike mixedMemoSet bases defined, by decide,
    (ofBody memoClass defines .destroy).1 (by decide)⟩

end ViewSet

end Django

end RouteAtlas
