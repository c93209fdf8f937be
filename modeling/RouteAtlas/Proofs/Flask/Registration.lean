/-
Module: RouteAtlas.Proofs.Flask.Registration
Layer: Proofs
Purpose: Which routes a file with applications and blueprints has. Objects are declared, rules are
  recorded on them and blueprints are registered in any order and at any depth; what comes out only
  depends on the four lists of what was declared, recorded, registered and included.
Trusted boundary: none
Main exports: appOf?, blueprintOf?, rulesOf, registration?, firstDeclared, Assembly, read_assembled,
  findings_eq, allRoutes_blueprints, routes_of_file
-/
import Mathlib.Data.List.Basic
import RouteAtlas.Flask.Application

namespace RouteAtlas.Flask

open Python (Node)
open Application (Rule)

/-! ### What the nodes of a file say -/

/-- The name of the application that a node declares. -/
def appOf? : Node → Option String
  | .assign targets value =>
      (targets.head?.bind Python.Expr.nameId?).filter fun _ =>
        (value.asCall?.bind fun call => call.func.simpleName?) = some "Flask"
  | _ => none

/-- The name of the blueprint that a node declares, and its own path. -/
def blueprintOf? : Node → Option (String × String)
  | .assign targets value =>
      (targets.head?.bind Python.Expr.nameId?).bind fun name =>
        (value.asCall?.filter fun call => call.func.simpleName? = some "Blueprint").map fun call =>
          (name, ((call.keyword? "url_prefix").bind Python.Expr.text?).getD "")
  | _ => none

/-- The rule that a decorator of a function states, and the object on which it is recorded. -/
def decoratorRule? (decl : Python.FunctionDecl) (decorator : Python.Expr) : Option (String × Rule) := do
  let call ← decorator.asCall?
  let (receiver, method) ← call.method?
  let methods ← Application.decoratorMethods? method call
  let path ← call.args.head?.bind Python.Expr.text?
  let operationId := ((call.keyword? "endpoint").bind Python.Expr.text?).getD decl.name
  return (receiver, ⟨path, methods, operationId, Python.docstring? decl.body, decl.name⟩)

/-- The rules that a node states, each with the object on which it is recorded. -/
def rulesOf : Node → List (String × Rule)
  | .function decl => decl.decorators.filterMap (decoratorRule? decl)
  | .call call =>
      match call.method? with
      | some (receiver, "add_url_rule") =>
          (Application.rule? call).toList.map fun rule => (receiver, rule)
      | _ => []
  | _ => []

/-- The literal path that a call gives for what it registers. -/
def overridePath? (call : Python.Call) : Option String :=
  (call.keyword? "url_prefix").bind Python.Expr.text?

/-- What a call registers, if it registers something by its name: the name, and the path that the call
gives for it. -/
def registered? (call : Python.Call) : Option (String × Option String) :=
  match call.method? with
  | some (_, "register_blueprint") =>
      ((call.argOrKeyword? 0 "blueprint").bind Python.Expr.nameId?).map fun name =>
        (name, overridePath? call)
  | _ => none

/-- What a node registers by its name. -/
def registration? : Node → Option (String × Option String)
  | .call call => registered? call
  | _ => none

/-- The file that a node includes by registering something imported from it, if the names of blueprints
of this file are those given. -/
def inclusion? (imports : Python.ImportTable) (names : List String) : Node → Option Include
  | .call call =>
      match call.method? with
      | some (_, "register_blueprint") =>
          match call.argOrKeyword? 0 "blueprint" with
          | some (.name id) =>
              if id ∈ names then none
              else (KeyMap.find? id imports).map fun imported =>
                { Include.ofImport imported "" with overridePath := overridePath? call }
          | some (.attribute (.name owner) attr) =>
              (KeyMap.find? owner imports).map fun imported => {
                module := imported.modulePath owner
                level := imported.level
                symbol := some attr
                overridePath := overridePath? call }
          | _ => none
      | _ => none
  | _ => none

/-- The first declaration of each name. -/
def firstDeclared : List (String × String) → List (String × String)
  | [] => []
  | first :: rest => first :: (firstDeclared rest).filter fun other => other.1 ≠ first.1

/-! ### What is assembled of it -/

/-- What has been said in a file: the applications and blueprints that are declared, the rules that are
recorded, the blueprints that are registered, and the files that are included. -/
structure Assembly where
  apps : List String
  declared : List (String × String)
  rules : List (String × Rule) := []
  registered : List (String × Option String) := []
  included : List Include := []

namespace Assembly

variable (assembly : Assembly)

/-- The routes that are recorded on the object of a name. -/
def routesOn (name : String) : List Route :=
  (assembly.rules.filter fun rule => rule.1 = name).flatMap fun rule => rule.2.routes

/-- The routes that are recorded on applications. -/
def appRoutes : List Route :=
  (assembly.rules.filter fun rule => assembly.apps.contains rule.1).flatMap fun rule => rule.2.routes

/-- The paths that the registrations of a blueprint give for it, its own one where they give none. -/
def pathsOf (name own : String) : List String :=
  (assembly.registered.filter fun registration => registration.1 = name).map fun registration =>
    registration.2.getD own

/-- The blueprint of a name. What is recorded on a name that is also one of an application is
recorded on the application. -/
def blueprint (name own : String) : Blueprint where
  name := name
  urlPath := own
  routes := if assembly.apps.contains name then [] else assembly.routesOn name
  registrations := assembly.pathsOf name own

/-- The blueprints of some declarations. Where a name is declared once more, nothing is recorded on the
new object. -/
def blueprints : (seen : List String) → List (String × String) → List Blueprint
  | _, [] => []
  | seen, (name, own) :: rest =>
      (if name ∈ seen then { name := name, urlPath := own } else assembly.blueprint name own) ::
        blueprints (name :: seen) rest

/-- What is known of the file. -/
def application : Application where
  apps := assembly.apps
  blueprints := assembly.blueprints [] assembly.declared
  routes := assembly.appRoutes
  includes := assembly.included

/-- A rule is recorded on an object. -/
def record (receiver : String) (rule : Rule) : Assembly :=
  { assembly with rules := assembly.rules ++ [(receiver, rule)] }

/-- What is known after a node was read. -/
def follow (imports : Python.ImportTable) (node : Node) : Assembly where
  apps := assembly.apps
  declared := assembly.declared
  rules := assembly.rules ++ rulesOf node
  registered := assembly.registered ++ (registration? node).toList
  included := assembly.included ++
    (inclusion? imports (assembly.declared.map Prod.fst) node).toList

/-- Something is registered by its name. -/
def register (name : String) (override : Option String) : Assembly :=
  { assembly with registered := assembly.registered ++ [(name, override)] }

theorem routesOn_record (receiver name : String) (rule : Rule) :
    (assembly.record receiver rule).routesOn name =
      assembly.routesOn name ++ if receiver = name then rule.routes else [] := by
  by_cases same : receiver = name
  · simp [record, routesOn, same]
  · simp [record, routesOn, same]

theorem appRoutes_record (receiver : String) (rule : Rule) :
    (assembly.record receiver rule).appRoutes =
      assembly.appRoutes ++ if assembly.apps.contains receiver then rule.routes else [] := by
  by_cases app : receiver ∈ assembly.apps
  · simp [record, appRoutes, app]
  · simp [record, appRoutes, app]

@[simp] theorem apps_record (receiver : String) (rule : Rule) :
    (assembly.record receiver rule).apps = assembly.apps := rfl

/-- Recording a rule leaves other blueprints as they are, and all of them if it is for an application. -/
theorem blueprint_record_other {receiver name : String} (rule : Rule)
    (other : receiver ≠ name ∨ assembly.apps.contains receiver = true) (own : String) :
    (assembly.record receiver rule).blueprint name own = assembly.blueprint name own := by
  by_cases same : receiver = name
  · have app : assembly.apps.contains name = true := same ▸ other.resolve_left fun differs => differs same
    rw [blueprint, blueprint, apps_record, if_pos app, if_pos app]
    rfl
  · rw [blueprint, blueprint, routesOn_record, if_neg same, List.append_nil]
    rfl

theorem blueprint_record_self {name : String} (rule : Rule)
    (plain : ¬ assembly.apps.contains name = true) (own : String) :
    (assembly.record name rule).blueprint name own =
      { assembly.blueprint name own with
        routes := (assembly.blueprint name own).routes ++ rule.routes } := by
  simp only [blueprint, apps_record, if_neg plain, routesOn_record, if_true]
  rfl

theorem pathsOf_register (name other own : String) (override : Option String) :
    (assembly.register name override).pathsOf other own =
      assembly.pathsOf other own ++ if name = other then [override.getD own] else [] := by
  by_cases same : name = other
  · simp [register, pathsOf, same]
  · simp [register, pathsOf, same]

/-- Registering a blueprint leaves the others as they are. -/
theorem blueprint_register_other {name other : String} (override : Option String)
    (differs : other ≠ name) (own : String) :
    (assembly.register name override).blueprint other own = assembly.blueprint other own := by
  rw [blueprint, blueprint, pathsOf_register, if_neg differs.symm, List.append_nil]
  rfl

theorem blueprint_register_self (name : String) (override : Option String) (own : String) :
    (assembly.register name override).blueprint name own =
      { assembly.blueprint name own with
        registrations := (assembly.blueprint name own).registrations ++ [override.getD own] } := by
  rw [blueprint, pathsOf_register, if_pos rfl]
  rfl

end Assembly

/-! ### Declarations -/

/-- A blueprint as it is declared. -/
def freshBlueprint (declaration : String × String) : Blueprint where
  name := declaration.1
  urlPath := declaration.2

theorem declareAll_eq (application : Application) (node : Node) :
    application.declareAll node =
      { application with
        apps := application.apps ++ (appOf? node).toList
        blueprints := application.blueprints ++ ((blueprintOf? node).map freshBlueprint).toList } := by
  cases node with
  | assign targets value =>
      simp only [Application.declareAll, Application.declare, appOf?, blueprintOf?]
      cases targets.head?.bind Python.Expr.nameId? with
      | none => simp
      | some target =>
          cases value.asCall? with
          | none => simp
          | some call =>
              simp only [Option.bind_some, Option.filter_some]
              split
              · next named => simp [named]
              · next named => simp [named, freshBlueprint]
              · next other flask blueprint =>
                  simp only [decide_eq_true_eq]
                  rw [if_neg flask, if_neg blueprint]
                  simp
  | _ => simp [Application.declareAll, appOf?, blueprintOf?]

theorem foldl_declareAll (nodes : List Node) (application : Application) :
    nodes.foldl Application.declareAll application =
      { application with
        apps := application.apps ++ nodes.filterMap appOf?
        blueprints := application.blueprints ++
          (nodes.filterMap blueprintOf?).map freshBlueprint } := by
  induction nodes generalizing application with
  | nil => simp
  | cons node rest ih =>
      rw [List.foldl_cons, ih, declareAll_eq]
      simp [List.filterMap_eq_flatMap_toList, Option.toList_map]

/-- Before anything is recorded, all blueprints are as they were declared. -/
theorem blueprints_unrecorded (apps : List String) (all : List (String × String))
    (included : List Include) (seen : List String) (declared : List (String × String)) :
    (Assembly.mk apps all [] [] included).blueprints seen declared = declared.map freshBlueprint := by
  induction declared generalizing seen with
  | nil => rfl
  | cons first rest ih =>
      obtain ⟨name, own⟩ := first
      rw [Assembly.blueprints, ih, List.map_cons]
      congr 1
      split
      · rfl
      · simp [Assembly.blueprint, Assembly.routesOn, Assembly.pathsOf, freshBlueprint]

/-! ### One node -/

section Update

variable {assembly after : Assembly} {seen : List String}

/-- Blueprints are the same where those that nothing has hidden are. -/
theorem blueprints_congr
    (same : ∀ name own, name ∉ seen → assembly.blueprint name own = after.blueprint name own)
    (declared : List (String × String)) :
    assembly.blueprints seen declared = after.blueprints seen declared := by
  induction declared generalizing seen with
  | nil => rfl
  | cons first rest ih =>
      obtain ⟨name, own⟩ := first
      have sameRest : assembly.blueprints (name :: seen) rest = after.blueprints (name :: seen) rest :=
        ih fun other own unseen => same other own fun member =>
          unseen (List.mem_cons_of_mem _ member)
      rw [Assembly.blueprints, Assembly.blueprints, sameRest]
      split
      · rfl
      · next unseen => rw [same name own unseen]

/-- What is done with the blueprint of a name is done with the first one that is declared. -/
theorem updateBlueprint_blueprints {name : String} {change : Blueprint → Blueprint}
    (unseen : name ∉ seen)
    (changes : ∀ own, change (assembly.blueprint name own) = after.blueprint name own)
    (keeps : ∀ other own, other ≠ name → assembly.blueprint other own = after.blueprint other own)
    (declared : List (String × String)) :
    Application.updateBlueprint name change (assembly.blueprints seen declared) =
      after.blueprints seen declared := by
  induction declared generalizing seen with
  | nil => rfl
  | cons first rest ih =>
      obtain ⟨other, own⟩ := first
      rw [Assembly.blueprints, Assembly.blueprints, Application.updateBlueprint]
      by_cases same : other = name
      · subst same
        have sameRest : assembly.blueprints (other :: seen) rest =
            after.blueprints (other :: seen) rest :=
          blueprints_congr (fun next own hidden => keeps next own fun same =>
            hidden (same ▸ List.mem_cons_self)) rest
        rw [if_neg unseen, if_neg unseen, sameRest, changes]
        exact if_pos rfl
      · have hidden : name ∉ other :: seen :=
          List.not_mem_cons_of_ne_of_not_mem (Ne.symm same) unseen
        rw [ih hidden]
        by_cases known : other ∈ seen
        · rw [if_pos known, if_pos known]
          exact if_neg same
        · rw [if_neg known, if_neg known, keeps other own same]
          exact if_neg same

end Update

theorem updateBlueprint_of_find?_eq_none {name : String} {change : Blueprint → Blueprint}
    {blueprints : List Blueprint}
    (unknown : (blueprints.find? fun blueprint => blueprint.name == name) = none) :
    Application.updateBlueprint name change blueprints = blueprints := by
  rw [List.find?_eq_none] at unknown
  induction blueprints with
  | nil => rfl
  | cons blueprint rest ih =>
      have other : blueprint.name ≠ name := by simpa using unknown blueprint List.mem_cons_self
      rw [Application.updateBlueprint, if_neg other,
        ih fun blueprint member => unknown blueprint (List.mem_cons_of_mem _ member)]

theorem blueprints_names (assembly : Assembly) (seen : List String)
    (declared : List (String × String)) :
    (assembly.blueprints seen declared).map Blueprint.name = declared.map Prod.fst := by
  induction declared generalizing seen with
  | nil => rfl
  | cons first rest ih =>
      obtain ⟨name, own⟩ := first
      rw [Assembly.blueprints, List.map_cons, List.map_cons, ih]
      congr 1
      split
      · rfl
      · rfl

section Reading

variable (assembly : Assembly)

theorem blueprint?_isSome_iff (name : String) :
    (assembly.application.blueprint? name).isSome = true ↔ name ∈ assembly.declared.map Prod.fst := by
  rw [← blueprints_names assembly [] assembly.declared, Application.blueprint?, List.find?_isSome]
  simp [Assembly.application]

/-- A rule is recorded on the application or the blueprint of its name. -/
theorem addRule_assembled (receiver : String) (rule : Rule) :
    assembly.application.addRule receiver rule = (assembly.record receiver rule).application := by
  rw [Application.addRule]
  by_cases app : assembly.apps.contains receiver = true
  · have kept : assembly.blueprints [] assembly.declared =
        (assembly.record receiver rule).blueprints [] assembly.declared :=
      blueprints_congr (fun _ own _ => (assembly.blueprint_record_other rule (.inr app) own).symm) _
    refine (if_pos app).trans ?_
    simp only [Assembly.application, Assembly.appRoutes_record, if_pos app, kept]
    rfl
  · have updated : Application.updateBlueprint receiver
          (fun blueprint => { blueprint with routes := blueprint.routes ++ rule.routes })
          (assembly.blueprints [] assembly.declared) =
        (assembly.record receiver rule).blueprints [] assembly.declared :=
      updateBlueprint_blueprints List.not_mem_nil
        (fun own => (assembly.blueprint_record_self rule app own).symm)
        (fun _ own other => (assembly.blueprint_record_other rule (.inl other.symm) own).symm) _
    refine (if_neg app).trans ?_
    simp only [Assembly.application, Assembly.appRoutes_record, if_neg app, List.append_nil, updated]
    rfl

/-- A blueprint that is declared in the file is registered by its name. -/
theorem register_assembled (name : String) (override : Option String) :
    { assembly.application with
      blueprints := Application.updateBlueprint name
        (fun blueprint =>
          { blueprint with
            registrations := blueprint.registrations ++ [override.getD blueprint.urlPath] })
        assembly.application.blueprints } = (assembly.register name override).application := by
  have updated : Application.updateBlueprint name
        (fun blueprint =>
          { blueprint with
            registrations := blueprint.registrations ++ [override.getD blueprint.urlPath] })
        (assembly.blueprints [] assembly.declared) =
      (assembly.register name override).blueprints [] assembly.declared :=
    updateBlueprint_blueprints List.not_mem_nil
      (fun own => (assembly.blueprint_register_self name override own).symm)
      (fun _ own differs => (assembly.blueprint_register_other override differs own).symm) _
  simp only [Assembly.application, updated]
  rfl

theorem readDecorator_eq (decl : Python.FunctionDecl) (application : Application)
    (decorator : Python.Expr) :
    Application.readDecorator decl application decorator =
      match decoratorRule? decl decorator with
      | some (receiver, rule) => application.addRule receiver rule
      | none => application := rfl

theorem foldl_readDecorator (decl : Python.FunctionDecl) (decorators : List Python.Expr)
    (assembly : Assembly) :
    decorators.foldl (Application.readDecorator decl) assembly.application =
      ({ assembly with
        rules := assembly.rules ++ decorators.filterMap (decoratorRule? decl) } :
          Assembly).application := by
  induction decorators generalizing assembly with
  | nil => simp
  | cons decorator rest ih =>
      rw [List.foldl_cons, readDecorator_eq, List.filterMap_cons]
      cases decoratorRule? decl decorator with
      | none => exact ih assembly
      | some stated =>
          obtain ⟨receiver, rule⟩ := stated
          simp only [addRule_assembled, ih]
          simp [Assembly.record]

/-- Something that is not declared in the file has no blueprint to register. -/
theorem register_undeclared {name : String} (override : Option String)
    (undeclared : name ∉ assembly.declared.map Prod.fst) :
    (assembly.register name override).application = assembly.application := by
  rw [← register_assembled]
  have unknown : assembly.application.blueprint? name = none :=
    Option.not_isSome_iff_eq_none.1 (mt (blueprint?_isSome_iff assembly name).1 undeclared)
  rw [updateBlueprint_of_find?_eq_none unknown]

/-- Including files leaves everything else as it is. -/
theorem application_including (included : List Include) :
    ({ assembly with included := included } : Assembly).application =
      { assembly.application with includes := included } := by
  have kept : ({ assembly with included := included } : Assembly).blueprints [] assembly.declared =
      assembly.blueprints [] assembly.declared := by
    refine blueprints_congr ?_ _
    intro name own _
    rfl
  rw [Assembly.application, kept]
  rfl

theorem registerBlueprint_assembled (imports : Python.ImportTable) (call : Python.Call)
    {receiver : String} (registers : call.method? = some (receiver, "register_blueprint")) :
    assembly.application.registerBlueprint imports call =
      (assembly.follow imports (.call call)).application := by
  have unruled : rulesOf (.call call) = [] := by simp [rulesOf, registers]
  simp only [Assembly.follow, unruled, registration?, registered?, inclusion?, registers,
    Application.registerBlueprint, List.append_nil]
  cases target : call.argOrKeyword? 0 "blueprint" with
  | none => simp
  | some expr =>
      cases expr with
      | name id =>
          by_cases declared : id ∈ assembly.declared.map Prod.fst
          · obtain ⟨blueprint, found⟩ :=
              Option.isSome_iff_exists.1 ((blueprint?_isSome_iff assembly id).2 declared)
            simp only [found, if_pos declared]
            rw [← overridePath?, register_assembled]
            simp [Assembly.register, Python.Expr.nameId?]
          · have unknown : assembly.application.blueprint? id = none :=
              Option.not_isSome_iff_eq_none.1 (mt (blueprint?_isSome_iff assembly id).1 declared)
            have undone := application_including (assembly.register id (overridePath? call))
            rw [register_undeclared assembly (overridePath? call) declared] at undone
            simp only [unknown, if_neg declared]
            refine Eq.trans ?_ (undone _).symm
            cases KeyMap.find? id imports with
            | none => simp [Assembly.application]
            | some imported => simp [Assembly.application, overridePath?]
      | «attribute» value attr =>
          cases value with
          | name owner =>
              simp only [Option.bind_some, Python.Expr.nameId?, Option.map_none, Option.toList_none,
                List.append_nil]
              refine Eq.trans ?_ (application_including assembly _).symm
              cases KeyMap.find? owner imports with
              | none => simp [Assembly.application]
              | some imported => simp [Assembly.application, overridePath?]
          | _ => simp [Python.Expr.nameId?]
      | _ => simp [Python.Expr.nameId?]

/-- Reading a node adds what it says to what is known. -/
theorem read_assembled (imports : Python.ImportTable) (node : Node) :
    assembly.application.read imports node = (assembly.follow imports node).application := by
  cases node with
  | function decl =>
      rw [Application.read, foldl_readDecorator]
      simp [Assembly.follow, rulesOf, registration?, inclusion?]
  | call call =>
      simp only [Application.read]
      split
      · next receiver adds =>
          cases stated : Application.rule? call with
          | none => simp [Assembly.follow, rulesOf, registration?, registered?, inclusion?, adds, stated]
          | some rule =>
              simp [Assembly.follow, rulesOf, registration?, registered?, inclusion?, adds, stated,
                addRule_assembled, Assembly.record]
      · next receiver registers => exact registerBlueprint_assembled assembly imports call registers
      · next other adds registers =>
          have unruled : rulesOf (.call call) = [] := by
            rw [rulesOf]
            split
            · next receiver named => exact (adds receiver named).elim
            · rfl
          have unregistered : registered? call = none := by
            rw [registered?]
            split
            · next receiver named => exact (registers receiver named).elim
            · rfl
          have unincluded : inclusion? imports (assembly.declared.map Prod.fst) (.call call) = none := by
            rw [inclusion?]
            split
            · next receiver named => exact (registers receiver named).elim
            · rfl
          simp [Assembly.follow, registration?, unruled, unregistered, unincluded]
  | _ => simp [Application.read, Assembly.follow, rulesOf, registration?, inclusion?]

end Reading

/-! ### Whole files -/

/-- What some nodes add to what is known. -/
theorem foldl_read (imports : Python.ImportTable) (nodes : List Node) (assembly : Assembly) :
    nodes.foldl (Application.read imports) assembly.application =
      ({ assembly with
        rules := assembly.rules ++ nodes.flatMap rulesOf
        registered := assembly.registered ++ nodes.filterMap registration?
        included := assembly.included ++
          nodes.filterMap (inclusion? imports (assembly.declared.map Prod.fst)) } :
            Assembly).application := by
  induction nodes generalizing assembly with
  | nil => simp
  | cons node rest ih =>
      rw [List.foldl_cons, read_assembled, ih]
      simp [Assembly.follow, List.filterMap_eq_flatMap_toList]

/-- All that the nodes of a file say. -/
def assemblyOf (imports : Python.ImportTable) (nodes : List Node) : Assembly where
  apps := nodes.filterMap appOf?
  declared := nodes.filterMap blueprintOf?
  rules := nodes.flatMap rulesOf
  registered := nodes.filterMap registration?
  included := nodes.filterMap (inclusion? imports ((nodes.filterMap blueprintOf?).map Prod.fst))

/-- The findings of a file are those of what its nodes say. -/
theorem findings_eq (scope : Scope) (body : Python.Module) :
    findings scope body =
      (assemblyOf (Python.imports body) (Python.nodes body)).application.findings
        (Python.imports body) scope := by
  have declared : (Python.nodes body).foldl Application.declareAll {} =
      (Assembly.mk ((Python.nodes body).filterMap appOf?) ((Python.nodes body).filterMap blueprintOf?)
        [] [] []).application := by
    rw [foldl_declareAll, Assembly.application, blueprints_unrecorded]
    simp [Assembly.appRoutes]
  rw [findings, declared, foldl_read]
  simp [assemblyOf]

/-- The routes of all blueprints are those of the first blueprint of each name, unless the name is that of
an application. -/
theorem flatMap_registeredRoutes (assembly : Assembly) (seen : List String)
    (declared : List (String × String)) :
    (assembly.blueprints seen declared).flatMap Blueprint.registeredRoutes =
      ((firstDeclared declared).filter fun declaration => declaration.1 ∉ seen).flatMap
        fun declaration => (assembly.blueprint declaration.1 declaration.2).registeredRoutes := by
  induction declared generalizing seen with
  | nil => rfl
  | cons first rest ih =>
      obtain ⟨name, own⟩ := first
      have others : ((firstDeclared rest).filter fun other => other.1 ≠ name).filter
            (fun declaration => declaration.1 ∉ seen) =
          (firstDeclared rest).filter fun declaration => declaration.1 ∉ name :: seen := by
        rw [List.filter_filter]
        refine List.filter_congr fun declaration _ => ?_
        simp [Bool.and_comm]
      rw [Assembly.blueprints, List.flatMap_cons, ih, firstDeclared]
      by_cases hidden : name ∈ seen
      · rw [if_pos hidden, List.filter_cons_of_neg (by simpa using hidden), others]
        simp [Blueprint.registeredRoutes, Blueprint.routesUnder]
      · rw [if_neg hidden, List.filter_cons_of_pos (by simpa using hidden), others,
          List.flatMap_cons]

theorem registeredRoutes_blueprint (assembly : Assembly) (name own : String) :
    (assembly.blueprint name own).registeredRoutes =
      if assembly.apps.contains name then []
      else (if (assembly.pathsOf name own).isEmpty then [own] else assembly.pathsOf name own).flatMap
        fun path => (assembly.routesOn name).map (Route.under path) := by
  simp only [Blueprint.registeredRoutes, Blueprint.routesUnder, Assembly.blueprint]
  split
  · simp
  · rfl

/-- The routes of a file are those of its applications, and then those of the first blueprint of each
name. -/
theorem allRoutes_blueprints (assembly : Assembly) :
    assembly.application.allRoutes =
      assembly.appRoutes ++ (firstDeclared assembly.declared).flatMap fun declaration =>
        (assembly.blueprint declaration.1 declaration.2).registeredRoutes := by
  have unhidden : (firstDeclared assembly.declared).filter (fun declaration => declaration.1 ∉ []) =
      firstDeclared assembly.declared :=
    List.filter_eq_self.2 fun _ _ => rfl
  rw [Application.allRoutes, Assembly.application, flatMap_registeredRoutes, unhidden]

/-- The routes of a file, as they come out. -/
theorem allRoutes_eq (assembly : Assembly) :
    assembly.application.allRoutes =
      assembly.appRoutes ++
        ((firstDeclared assembly.declared).filter fun declaration =>
            !assembly.apps.contains declaration.1).flatMap
          fun (name, own) =>
            (if (assembly.pathsOf name own).isEmpty then [own] else assembly.pathsOf name own).flatMap
              fun path => (assembly.routesOn name).map (Route.under path) := by
  rw [allRoutes_blueprints]
  congr 1
  induction firstDeclared assembly.declared with
  | nil => rfl
  | cons first rest ih =>
      obtain ⟨name, own⟩ := first
      rw [List.flatMap_cons, ih, registeredRoutes_blueprint]
      by_cases app : assembly.apps.contains name = true
      · rw [if_pos app, List.filter_cons_of_neg (by simpa using app), List.nil_append]
      · rw [if_neg app, List.filter_cons_of_pos (by simpa using app), List.flatMap_cons]

/-! ### Registrations moved -/

/-- It does not matter where a blueprint is registered, as long as its own registrations stay in order. -/
theorem application_moved {assembly moved : Assembly} {name : String} (override : Option String)
    (before after : List (String × Option String)) {between : List (String × Option String)}
    (apart : ∀ registration ∈ between, registration.1 ≠ name)
    (was : assembly.registered = before ++ (name, override) :: between ++ after)
    (becomes : moved =
      { assembly with registered := before ++ between ++ (name, override) :: after }) :
    moved.application = assembly.application := by
  have paths : ∀ other own, moved.pathsOf other own = assembly.pathsOf other own := by
    intro other own
    subst becomes
    rw [Assembly.pathsOf, Assembly.pathsOf, was]
    by_cases same : name = other
    · subst same
      have silent : between.filter (fun registration => decide (registration.1 = name)) = [] := by
        simpa using apart
      simp [silent]
    · simp [same]
  have kept : moved.blueprints [] assembly.declared = assembly.blueprints [] assembly.declared := by
    refine blueprints_congr (fun other own _ => ?_) _
    rw [Assembly.blueprint, Assembly.blueprint, paths]
    subst becomes
    rfl
  subst becomes
  rw [Assembly.application, Assembly.application, ← kept]
  rfl

/-- A statement that registers something by its name. -/
def registerStmt (receiver : String) (args : List Python.Expr)
    (keywords : List (Option String × Python.Expr)) : Python.Stmt :=
  .expression (.call (.attribute (.name receiver) "register_blueprint") args keywords)

/-- The call that the statement makes. -/
def registerCall (receiver : String) (args : List Python.Expr)
    (keywords : List (Option String × Python.Expr)) : Python.Call :=
  ⟨.attribute (.name receiver) "register_blueprint", args, keywords⟩

/-- What a file says when such a statement stands somewhere between others: it adds one registration in
its place. -/
theorem assemblyOf_registerStmt (imports : Python.ImportTable) (before after : List Node)
    {receiver name : String} {args : List Python.Expr} {keywords : List (Option String × Python.Expr)}
    (target : (registerCall receiver args keywords).argOrKeyword? 0 "blueprint" = some (.name name))
    (declared : name ∈ ((before ++ after).filterMap blueprintOf?).map Prod.fst) :
    assemblyOf imports (before ++ .call (registerCall receiver args keywords) :: after) =
      { assemblyOf imports (before ++ after) with
        registered := before.filterMap registration? ++
          (name, overridePath? (registerCall receiver args keywords)) ::
            after.filterMap registration? } := by
  have method : (registerCall receiver args keywords).method? =
      some (receiver, "register_blueprint") := rfl
  have names : (before ++ .call (registerCall receiver args keywords) :: after).filterMap blueprintOf? =
      (before ++ after).filterMap blueprintOf? := by
    simp [List.filterMap_cons, blueprintOf?]
  have app : appOf? (.call (registerCall receiver args keywords)) = none := rfl
  have rules : rulesOf (.call (registerCall receiver args keywords)) = [] := rfl
  have registers : registration? (.call (registerCall receiver args keywords)) =
      some (name, overridePath? (registerCall receiver args keywords)) := by
    simp [registration?, registered?, method, target, Python.Expr.nameId?]
  have included : inclusion? imports (((before ++ after).filterMap blueprintOf?).map Prod.fst)
      (.call (registerCall receiver args keywords)) = none := by
    simp only [inclusion?, method, target, if_pos declared]
  rw [assemblyOf, assemblyOf, names]
  generalize ((before ++ after).filterMap blueprintOf?).map Prod.fst = known at included ⊢
  simp only [List.filterMap_append, List.filterMap_cons, List.flatMap_append, List.flatMap_cons, app,
    rules, registers, included, List.nil_append]

/-- The routes of a whole file are, without more or less: all that is recorded on applications, as it
stands; then for the first declaration of each name that is not one of an application, in order, all that
is recorded on that name, once for each path at which it is registered, in order, and once at its own path
if it is registered nowhere. A registration counts for the literal path that it gives, and else for the
blueprint's own path.

And a statement at the top of a file that registers one of its blueprints, without making other calls, may
be moved past statements that do not register the same blueprint: the findings stay as they are. -/
theorem routes_of_file :
    (∀ body : Python.Module,
      let said := assemblyOf (Python.imports body) (Python.nodes body)
      (findings {} body).routes =
        (said.rules.filter fun rule => said.apps.contains rule.1).flatMap (fun rule => rule.2.routes) ++
        ((firstDeclared said.declared).filter fun declaration =>
            !said.apps.contains declaration.1).flatMap fun (name, own) =>
          (if (said.pathsOf name own).isEmpty then [own] else said.pathsOf name own).flatMap fun path =>
            (said.routesOn name).map (Route.under path)) ∧
    (∀ (scope : Scope) (before between after : Python.Module) (receiver name : String)
        (args : List Python.Expr) (keywords : List (Option String × Python.Expr)),
      Python.callsOf args = [] → Python.callsOfKeywords keywords = [] →
      (registerCall receiver args keywords).argOrKeyword? 0 "blueprint" = some (.name name) →
      (∃ own, (name, own) ∈
        (Python.nodes (before ++ registerStmt receiver args keywords :: between ++ after)).filterMap
          blueprintOf?) →
      (∀ node ∈ Python.nodes between, ∀ override, registration? node ≠ some (name, override)) →
      findings scope (before ++ between ++ registerStmt receiver args keywords :: after) =
        findings scope (before ++ registerStmt receiver args keywords :: between ++ after)) := by
  refine ⟨fun body => ?_, ?_⟩
  · intro said
    rw [findings_eq]
    exact allRoutes_eq said
  · intro scope before between after receiver name args keywords quietArgs quietKeywords target
      declared apart
    obtain ⟨own, declared⟩ := declared
    have single : (registerStmt receiver args keywords).nodes =
        [.call (registerCall receiver args keywords)] := by
      simp [registerStmt, registerCall, Python.Stmt.nodes, Python.Expr.callNodes, Python.Expr.calls,
        quietArgs, quietKeywords]
    have nodesWith (rest : Python.Module) :
        Python.nodes (registerStmt receiver args keywords :: rest) =
          .call (registerCall receiver args keywords) :: Python.nodes rest := by
      rw [Python.nodes, Python.nodesOf, single]
      rfl
    have imports : Python.imports (before ++ between ++ registerStmt receiver args keywords :: after) =
        Python.imports (before ++ registerStmt receiver args keywords :: between ++ after) := by
      simp [Python.imports, registerStmt, Python.Stmt.importBindings]
    have declaredApart : name ∈ ((Python.nodes before ++ (Python.nodes between ++
        Python.nodes after)).filterMap blueprintOf?).map Prod.fst := by
      refine List.mem_map.2 ⟨(name, own), ?_, rfl⟩
      simpa [Python.nodes_append, nodesWith, List.filterMap_cons, blueprintOf?] using declared
    have was := assemblyOf_registerStmt (Python.imports (before ++ registerStmt receiver args keywords ::
      between ++ after)) (Python.nodes before) (Python.nodes between ++ Python.nodes after) target
      declaredApart
    have becomes := assemblyOf_registerStmt (Python.imports (before ++
      registerStmt receiver args keywords :: between ++ after))
      (Python.nodes before ++ Python.nodes between) (Python.nodes after) target
      (by rwa [List.append_assoc])
    have silent : ∀ registration ∈ (Python.nodes between).filterMap registration?,
        registration.1 ≠ name := by
      intro registration member same
      obtain ⟨node, there, registers⟩ := List.mem_filterMap.1 member
      exact apart node there registration.2 (same ▸ registers)
    rw [findings_eq, findings_eq, imports]
    congr 1
    simp only [Python.nodes_append, nodesWith, List.append_assoc, List.cons_append] at was becomes ⊢
    have registered := congrArg Assembly.registered was
    refine application_moved (overridePath? (registerCall receiver args keywords))
      ((Python.nodes before).filterMap registration?) ((Python.nodes after).filterMap registration?)
      silent ?_ ?_
    · simpa using registered
    · rw [becomes, was]
      simp

/-- A factory: the blueprint is declared after the view that is recorded on it and after its first
registration, which is moved past the declaration. -/
theorem routes_of_factory :
    let taskView : Python.Stmt := .function "tasks"
      [.call (.attribute (.name "api") "get") [.constant (.text "/tasks")] []] [.simple]
    let app : Python.Stmt := .assign [.name "app"] (.call (.name "Flask") [.name "__name__"] [])
    let api : Python.Stmt := .assign [.name "api"] (.call (.name "Blueprint")
      [.constant (.text "api"), .name "__name__"] [(some "url_prefix", .constant (.text "/api"))])
    let keywords := [(some "url_prefix", Python.Expr.constant (.text "/v1"))]
    let again := registerStmt "app" [] [(some "blueprint", .name "api")]
    (registerCall "app" [.name "api"] keywords).argOrKeyword? 0 "blueprint" = some (.name "api") ∧
      (∃ own, ("api", own) ∈ (Python.nodes
        ([app, taskView] ++ registerStmt "app" [.name "api"] keywords :: [api] ++ [again])).filterMap
          blueprintOf?) ∧
      findings {} ([app, taskView] ++ [api] ++ registerStmt "app" [.name "api"] keywords :: [again]) =
        findings {}
          ([app, taskView] ++ registerStmt "app" [.name "api"] keywords :: [api] ++ [again]) ∧
      (findings {}
          ([app, taskView] ++ registerStmt "app" [.name "api"] keywords :: [api] ++ [again])).routes.map
        Route.path = ["/v1/tasks", "/api/tasks"] := by
  refine ⟨rfl, ⟨"/api", ?_⟩, ?_, ?_⟩
  · decide
  · refine routes_of_file.2 {} _ _ _ "app" "api" [.name "api"] _ rfl rfl rfl ⟨"/api", by decide⟩ ?_
    intro node member override registers
    rcases List.mem_cons.1 member with rfl | member
    · cases registers
    · rcases List.mem_singleton.1 member with rfl
      cases registers
  · decide

end RouteAtlas.Flask
