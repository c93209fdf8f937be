/-
Module: RouteAtlas.Proofs.Django.Definitions
Layer: Proofs
Purpose: Views that are defined more than once. A file that names a view of its own asks a table, which
  keeps what the last definition says; a file that imports the view asks for the first definition that
  says anything, and looks for view sets at the top level only. Each lookup gives one end of the list of
  what the definitions of the name say, and they agree exactly where these ends do.
Trusted boundary: none
Main exports: find?_ofDefinitions, methodsStated, viewSetsDefined, ofClass?_name, topLevel_sublist,
  methodTable_agrees_iff, viewSetTable_agrees_iff
-/
import Mathlib.Data.List.Basic
import RouteAtlas.Project.Walk
import RouteAtlas.Proofs.Data.Bindings

namespace RouteAtlas.Django

section Table

variable {Definition Said : Type} (name : Definition → String) (meaning : Definition → Option Said)

/-- What the definitions of a name say, in order. Some say nothing. -/
def saidOf (key : String) (definitions : List Definition) : List Said :=
  definitions.filterMap fun definition => if name definition = key then meaning definition else none

/-- What the definitions of a name say is what stands by the name in the list of what all say. -/
theorem saidOf_eq_map_filter (key : String) (definitions : List Definition) :
    saidOf name meaning key definitions =
      ((definitions.filterMap fun definition =>
          (meaning definition).map fun said => (name definition, said)).filter
        fun binding => binding.1 = key).map Prod.snd := by
  rw [saidOf, List.filter_filterMap, List.map_filterMap]
  refine List.filterMap_congr fun definition _ => ?_
  cases meaning definition with
  | none => simp
  | some said =>
      by_cases same : name definition = key
      · simp [same, Option.filter_some]
      · simp [same, Option.filter_some]

/-- The table of what definitions say keeps what is said last of a name. -/
theorem find?_ofDefinitions (key : String) (definitions : List Definition) :
    KeyMap.find? key (KeyMap.ofList (definitions.filterMap fun definition =>
        (meaning definition).map fun said => (name definition, said))) =
      (saidOf name meaning key definitions).getLast? := by
  rw [KeyMap.find?_ofList, saidOf_eq_map_filter, List.getLast?_map]

/-- The first definition of a name that says anything says what is said first. -/
theorem findSome?_definitions (key : String) (definitions : List Definition) :
    (definitions.findSome? fun definition => if name definition = key then meaning definition else none) =
      (saidOf name meaning key definitions).head? :=
  List.head?_filterMap.symm

end Table

/-! ### Function views -/

/-- What the functions of a name state with `api_view`, in order. -/
def methodsStated (body : Python.Module) (function : String) : List (List Method) :=
  saidOf Python.FunctionDecl.name (fun decl => decoratorMethods? decl.decorators) function
    (Python.functionNodes body)

/-- The methods of a function view, in the file that defines it and in a file that imports it. In its own
file the last definition that states methods counts, for other files the first one does. Either way
there are some exactly if any definition states them, and they are the same exactly if the first and
the last definition that state methods state the same ones. -/
theorem methodTable_agrees_iff (body : Python.Module) (function : String) :
    KeyMap.find? function (methodTable body) = (methodsStated body function).getLast? ∧
      declaredMethods? body function = (methodsStated body function).head? ∧
      (KeyMap.find? function (methodTable body) = none ↔ declaredMethods? body function = none) ∧
      (KeyMap.find? function (methodTable body) = declaredMethods? body function ↔
        (methodsStated body function).getLast? = (methodsStated body function).head?) := by
  have own : KeyMap.find? function (methodTable body) = (methodsStated body function).getLast? :=
    find?_ofDefinitions _ _ function _
  have imported : declaredMethods? body function = (methodsStated body function).head? :=
    findSome?_definitions _ _ function _
  refine ⟨own, imported, ?_, ?_⟩
  · rw [own, imported, List.getLast?_eq_none_iff, List.head?_eq_none_iff]
  · rw [own, imported]

/-- A view that is defined for `GET`, and then again for `POST`. -/
def redefinedView : Python.Module :=
  [.function "tasks" [.call (.name "api_view") [.list [.constant (.text "GET")]] []] [.simple],
    .function "tasks" [.call (.name "api_view") [.list [.constant (.text "POST")]] []] [.simple]]

/-- It answers to `POST` in its own file, and to `GET` where it is imported. -/
theorem redefinedView_differs :
    KeyMap.find? "tasks" (methodTable redefinedView) = some [.post] ∧
      declaredMethods? redefinedView "tasks" = some [.get] := by
  decide

/-! ### View sets -/

/-- A statement of a class body leaves the view set its name. -/
theorem learn_name (viewSet : ViewSet) (stmt : Python.Stmt) :
    (viewSet.learn stmt).name = viewSet.name := by
  cases stmt with
  | assign targets value =>
      simp only [ViewSet.learn]
      split
      · rfl
      · rfl
      · rfl
  | _ => rfl

theorem foldl_learn_name (body : List Python.Stmt) (viewSet : ViewSet) :
    (body.foldl ViewSet.learn viewSet).name = viewSet.name := by
  induction body generalizing viewSet with
  | nil => rfl
  | cons stmt rest ih => rw [List.foldl_cons, ih, learn_name]

/-- A view set has the name of its class. -/
theorem ofClass?_name {decl : Python.ClassDecl} {viewSet : ViewSet}
    (defines : ViewSet.ofClass? decl = some viewSet) : viewSet.name = decl.name := by
  obtain ⟨_, learned⟩ := Option.ite_none_right_eq_some.1 defines
  rw [← Option.some.inj learned, foldl_learn_name]

/-- The view sets that the classes of a name define, in order. -/
def viewSetsDefined (className : String) (decls : List Python.ClassDecl) : List ViewSet :=
  saidOf Python.ClassDecl.name ViewSet.ofClass? className decls

theorem classNodes_cons (stmt : Python.Stmt) (rest : Python.Module) :
    Python.classNodes (stmt :: rest) = Python.classNodes [stmt] ++ Python.classNodes rest := by
  rw [Python.classNodes, Python.classNodes, Python.classNodes, ← List.filterMap_append,
    ← Python.nodes_append]
  rfl

/-- The classes at the top level of a file are met in it, between those of its blocks and functions. -/
theorem topLevel_sublist (body : Python.Module) :
    (body.filterMap Python.Stmt.asClass?).Sublist (Python.classNodes body) := by
  induction body with
  | nil => exact .slnil
  | cons stmt rest ih =>
      rw [classNodes_cons]
      cases stmt with
      | class_ name bases inner => exact ih.cons_cons _
      | _ => exact ih.trans (List.sublist_append_right _ _)

/-- The view set of a class name, in the file that defines it and in a file that imports it. In its own
file the last class of the name that is a view set counts, wherever it stands outside of classes; for
other files the first one at the top level does. The lookups are the same exactly if these two classes
define the same view set or neither exists, and a view set that can be imported is always found in its
own file. -/
theorem viewSetTable_agrees_iff (body : Python.Module) (className : String) :
    let everywhere := viewSetsDefined className (Python.classNodes body)
    let topLevel := viewSetsDefined className (body.filterMap Python.Stmt.asClass?)
    KeyMap.find? className (viewSetTable body) = everywhere.getLast? ∧
      Project.viewSetIn? body className = topLevel.head? ∧
      topLevel.Sublist everywhere ∧
      (KeyMap.find? className (viewSetTable body) = Project.viewSetIn? body className ↔
        everywhere.getLast? = topLevel.head?) := by
  intro everywhere topLevel
  have named : (fun decl : Python.ClassDecl =>
        (ViewSet.ofClass? decl).map fun viewSet => (viewSet.name, viewSet)) =
      fun decl => (ViewSet.ofClass? decl).map fun viewSet => (decl.name, viewSet) := by
    funext decl
    refine Option.map_congr fun viewSet defines => ?_
    rw [ofClass?_name defines]
  have own : KeyMap.find? className (viewSetTable body) = everywhere.getLast? := by
    rw [viewSetTable, named]
    exact find?_ofDefinitions _ _ className _
  have imported : Project.viewSetIn? body className = topLevel.head? :=
    findSome?_definitions _ _ className _
  refine ⟨own, imported, (topLevel_sublist body).filterMap _, ?_⟩
  rw [own, imported]

/-- A view set that is defined in a block, depending on what is installed. -/
def optionalViewSet : Python.Module :=
  [.guarded false [.class_ "TaskViewSet" [.name "ModelViewSet"] [.simple]] [[.simple]] [] []]

/-- It is found in its own file, but not where it is imported. -/
theorem optionalViewSet_missed :
    (KeyMap.find? "TaskViewSet" (viewSetTable optionalViewSet)).map ViewSet.actions =
        some Action.all ∧
      Project.viewSetIn? optionalViewSet "TaskViewSet" = none := by
  decide

end RouteAtlas.Django
