/-
Module: RouteAtlas.Flask.Application
Layer: Flask
Purpose: Applications and blueprints. Objects are declared by assignments anywhere in the file; then
  decorators and calls add routes to them and register blueprints. The findings are those of the
  whole file, or of one blueprint when a scope asks for it.
Trusted boundary: none
Main exports: Blueprint, Application, Application.read, Application.findings, findings
-/
import RouteAtlas.Findings
import RouteAtlas.View
import RouteAtlas.Python.Node

namespace RouteAtlas.Flask

/-- A group of routes with a path of its own, and the paths at which it was registered. -/
structure Blueprint where
  name : String
  urlPath : String
  routes : List Route := []
  registrations : List String := []
deriving Repr, Inhabited

namespace Blueprint

/-- The routes of a blueprint under a path. -/
def routesUnder (path : String) (blueprint : Blueprint) : List Route :=
  blueprint.routes.map (Route.under path)

/-- The routes of a blueprint, once for each registration. One that was not registered is taken to
be registered elsewhere, at its own path. -/
def registeredRoutes (blueprint : Blueprint) : List Route :=
  let paths :=
    if blueprint.registrations.isEmpty then [blueprint.urlPath] else blueprint.registrations
  paths.flatMap fun path => blueprint.routesUnder path

end Blueprint

/-- What has been read of a file. -/
structure Application where
  apps : List String := []
  blueprints : List Blueprint := []
  routes : List Route := []
  includes : List Include := []
deriving Inhabited

namespace Application

/-- The first blueprint of a name. -/
def blueprint? (application : Application) (name : String) : Option Blueprint :=
  application.blueprints.find? fun blueprint => blueprint.name == name

/-- Change the first blueprint of a name. -/
def updateBlueprint (name : String) (change : Blueprint → Blueprint) :
    List Blueprint → List Blueprint
  | [] => []
  | blueprint :: rest =>
      if blueprint.name = name then change blueprint :: rest
      else blueprint :: updateBlueprint name change rest

/-- Note the object that an assignment declares. -/
def declare (application : Application) (targets : List Python.Expr) (value : Python.Expr) :
    Application :=
  match targets.head?.bind Python.Expr.nameId?, value.asCall? with
  | some target, some call =>
      match call.func.simpleName? with
      | some "Flask" => { application with apps := application.apps ++ [target] }
      | some "Blueprint" =>
          let urlPath := ((call.keyword? "url_prefix").bind Python.Expr.text?).getD ""
          { application with
            blueprints := application.blueprints ++ [{ name := target, urlPath := urlPath }] }
      | _ => application
  | _, _ => application

/-- The objects that the assignments among the nodes declare. -/
def declareAll (application : Application) : Python.Node → Application
  | .assign targets value => declare application targets value
  | _ => application

/-- A route as a decorator or a call states it. -/
structure Rule where
  path : String
  methods : List Method
  operationId : String
  summary : Option String
  handler : String
deriving Repr, Inhabited

/-- The routes of a rule, one for each method. -/
def Rule.routes (rule : Rule) : List Route :=
  rule.methods.map fun method =>
    { path := rule.path
      method := method
      operationId := rule.operationId
      description := rule.summary.getD ("Endpoint for " ++ method.title ++ " " ++ rule.path)
      handler := some rule.handler }

/-- Add a rule to an application or a blueprint. Other objects have no routes. -/
def addRule (application : Application) (receiver : String) (rule : Rule) : Application :=
  if application.apps.contains receiver then
    { application with routes := application.routes ++ rule.routes }
  else
    { application with
      blueprints := updateBlueprint receiver
        (fun blueprint => { blueprint with routes := blueprint.routes ++ rule.routes })
        application.blueprints }

/-- The names of methods that are decorators themselves. -/
def shortcuts : List String := ["get", "post", "put", "delete", "patch"]

/-- The methods that a decorator method of the given name and call stands for, if it is one that
declares routes. -/
def decoratorMethods? (method : String) (call : Python.Call) : Option (List Method) :=
  if method = "route" then some (methodsOf call)
  else if shortcuts.contains method then some (Method.parse? method).toList
  else none

/-- Read one decorator of a function. -/
def readDecorator (decl : Python.FunctionDecl) (application : Application)
    (decorator : Python.Expr) : Application :=
  let rule? : Option (String × Rule) := do
    let call ← decorator.asCall?
    let (receiver, method) ← call.method?
    let methods ← decoratorMethods? method call
    let path ← call.args.head?.bind Python.Expr.text?
    let operationId := ((call.keyword? "endpoint").bind Python.Expr.text?).getD decl.name
    return (receiver, ⟨path, methods, operationId, Python.docstring? decl.body, decl.name⟩)
  match rule? with
  | some (receiver, rule) => addRule application receiver rule
  | none => application

/-- The rule that a call of `add_url_rule` states. It needs a literal path, and an endpoint or a
view to name the operation. -/
def rule? (call : Python.Call) : Option Rule := do
  let path ← call.args.head?.bind Python.Expr.text?
  let endpoint := (call.argOrKeyword? 1 "endpoint").bind Python.Expr.text?
  let view := (call.argOrKeyword? 2 "view_func").bind handlerName?
  let operationId ← endpoint.or view
  return ⟨path, methodsOf call, operationId, none, view.getD operationId⟩

/-- Read a call of `register_blueprint`. A blueprint of this file is registered at a path, an
imported one is a reference to its file; anything else cannot be found. -/
def registerBlueprint (imports : Python.ImportTable) (application : Application)
    (call : Python.Call) : Application :=
  let overridePath := (call.keyword? "url_prefix").bind Python.Expr.text?
  let including (reference : Include) : Application :=
    { application with
      includes := application.includes ++ [{ reference with overridePath := overridePath }] }
  match call.argOrKeyword? 0 "blueprint" with
  | some (.name id) =>
      match application.blueprint? id with
      | some _ =>
          { application with
            blueprints := updateBlueprint id
              (fun blueprint =>
                { blueprint with
                  registrations :=
                    blueprint.registrations ++ [overridePath.getD blueprint.urlPath] })
              application.blueprints }
      | none =>
          match KeyMap.find? id imports with
          | some imported => including (.ofImport imported "")
          | none => application
  | some (.attribute (.name owner) attr) =>
      match KeyMap.find? owner imports with
      | some imported =>
          including {
            module := imported.modulePath owner
            level := imported.level
            symbol := some attr }
      | none => application
  | _ => application

/-- Read one node of the file. -/
def read (imports : Python.ImportTable) (application : Application) :
    Python.Node → Application
  | .function decl => decl.decorators.foldl (readDecorator decl) application
  | .call call =>
      match call.method? with
      | some (receiver, "add_url_rule") =>
          match rule? call with
          | some rule => addRule application receiver rule
          | none => application
      | some (_, "register_blueprint") => registerBlueprint imports application call
      | _ => application
  | _ => application

/-- All routes of the file: those of applications, then those of blueprints in order of their
declaration. -/
def allRoutes (application : Application) : List Route :=
  application.routes ++ application.blueprints.flatMap Blueprint.registeredRoutes

/-- The findings in a scope. A scope that names a blueprint of the file is about its routes alone. -/
def findings (application : Application) (imports : Python.ImportTable) (scope : Scope) :
    Findings :=
  let appName := application.apps.head?
  match scope.symbol.bind application.blueprint? with
  | some blueprint =>
      { routes := blueprint.routesUnder (scope.urlPath.getD blueprint.urlPath)
        imports := imports
        appName := appName }
  | none =>
      { routes := application.allRoutes
        includes := application.includes
        imports := imports
        appName := appName }

end Application

/-- What a file says about routes, in a scope. -/
def findings (scope : Scope) (body : Python.Module) : Findings :=
  let nodes := Python.nodes body
  let imports := Python.imports body
  let declared := nodes.foldl Application.declareAll {}
  (nodes.foldl (Application.read imports) declared).findings imports scope

end RouteAtlas.Flask
