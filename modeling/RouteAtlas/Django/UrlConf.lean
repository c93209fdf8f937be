/-
Module: RouteAtlas.Django.UrlConf
Layer: Django
Purpose: URL configurations. The nodes of the file are read from top to bottom: local lists are noted
  and routers collected, and whatever is assigned, added, appended or extended to the list of URL
  patterns adds its entries to the findings.
Trusted boundary: none
Main exports: UrlConf, UrlConf.place, UrlConf.read, findings
-/
import RouteAtlas.Findings
import RouteAtlas.Django.Pattern
import RouteAtlas.Django.View

namespace RouteAtlas.Django

/-- The list that holds the URL patterns of a file. -/
def patternsName : String := "urlpatterns"

/-- What the whole file says, regardless of order: its imports and the methods of its function
views. -/
structure Background where
  imports : Python.ImportTable
  methods : KeyMap (List Method)

/-- What has been read of a URL configuration. -/
structure UrlConf where
  routes : List Route := []
  includes : List Include := []
  routers : Routers := []
  lists : ListTable := []
  importedViews : List ImportedView := []
deriving Inhabited

namespace UrlConf

/-- Where a view is imported from, if it is: a member of an imported module, or a name that was
imported from one. -/
def importedView? (imports : Python.ImportTable) (route : Nat) (raw : String)
    (view : Python.Expr) : Option ImportedView :=
  match view with
  | .attribute (.name owner) attr =>
      (KeyMap.find? owner imports).map fun imported =>
        ⟨route, raw, imported.modulePath owner, imported.level, attr⟩
  | .name id =>
      (KeyMap.find? id imports).bind fun imported =>
        imported.symbol.map fun function =>
          ⟨route, raw, imported.module, imported.level, function⟩
  | _ => none

/-- Add a route to a view. Its methods are those of a function view of this file, or those stated on
the spot; else it is a route for `GET`, until the file of an imported view has been read. -/
def addRoute (background : Background) (conf : UrlConf) (path raw : String)
    (call : Python.Call) : UrlConf :=
  let view := call.argOrKeyword? 1 "view"
  let handler := view.bind handlerName?
  let methods :=
    (handler.bind fun name => KeyMap.find? name background.methods).or (statedMethods? call view)
  let name := (call.keyword? "name").bind Python.Expr.text?
  let position := conf.routes.length
  let route : Route := {
    path := path
    method := .get
    operationId := (handler.or name).getD ("op_" ++ toString position)
    description := ""
    handler := handler }
  let imported :=
    match methods with
    | some _ => none
    | none => view.bind (importedView? background.imports position raw)
  { conf with
    routes := conf.routes ++ route.forMethods raw (methods.getD [.get])
    importedViews := conf.importedViews ++ imported.toList }

/-- Add the URLs of a local name: a router is mounted, and an imported module is included. A name
that is neither may become a router later. -/
def addUrlsOf (background : Background) (conf : UrlConf) (owner path : String) : UrlConf :=
  let imported := KeyMap.find? owner background.imports
  match imported.filter fun _ => !Routers.isDeclared owner conf.routers with
  | some imported =>
      let reference : Include :=
        { module := imported.modulePath owner ++ ".urls", level := imported.level, path := path }
      { conf with includes := conf.includes ++ [reference] }
  | none => { conf with routers := Routers.mount owner path conf.routers }

/-- Add one entry of a pattern list. -/
def place (background : Background) (conf : UrlConf) : Entry → UrlConf
  | .route path raw call => addRoute background conf path raw call
  | .urlsOf owner path => addUrlsOf background conf owner path
  | .included reference => { conf with includes := conf.includes ++ [reference] }

/-- Add all entries of a pattern list. -/
def addPatterns (background : Background) (conf : UrlConf) (patterns : Python.Expr) :
    Except CyclicPatterns UrlConf := do
  let entries ← entriesOf background.imports conf.lists patterns
  return entries.foldl (place background) conf

/-- The registration that a call of `register` makes. -/
def registration? (call : Python.Call) : Option Registration := do
  let path ← call.args.head?.bind Python.Expr.text?
  let resource ← (call.argOrKeyword? 1 "viewset").bind Python.Expr.simpleName?
  let baseName := ((call.keyword? "basename").or (call.keyword? "base_name")).or call.args[2]?
  return ⟨path, resource, baseName.bind Python.Expr.text?⟩

/-- Read an assignment to a name other than that of the patterns. A call of a class whose name ends
in `Router` makes a router, and displays and operators are noted as local lists. -/
def noteLocal (conf : UrlConf) (target : String) (value : Python.Expr) : UrlConf :=
  match value with
  | .call func _ _ =>
      if func.simpleName?.any (Text.hasSuffix "Router") then
        { conf with routers := Routers.declare target conf.routers }
      else conf
  | .list _ => { conf with lists := KeyMap.insert target value conf.lists }
  | .tuple _ => { conf with lists := KeyMap.insert target value conf.lists }
  | .binary _ _ _ => { conf with lists := KeyMap.insert target value conf.lists }
  | _ => conf

/-- Read a call of a method: patterns are added to, or a resource is registered. -/
def readCall (background : Background) (conf : UrlConf) (call : Python.Call) :
    Except CyclicPatterns UrlConf :=
  match call.method? with
  | none => .ok conf
  | some (receiver, method) =>
      if (method = "extend" || method = "append") && receiver = patternsName then
        match call.args.head? with
        | some patterns => addPatterns background conf patterns
        | none => .ok conf
      else if method = "register" && Routers.isDeclared receiver conf.routers then
        match registration? call with
        | some registration =>
            .ok { conf with routers := Routers.register receiver registration conf.routers }
        | none => .ok conf
      else .ok conf

/-- Read one node of the file. -/
def read (background : Background) (conf : UrlConf) :
    Python.Node → Except CyclicPatterns UrlConf
  | .assign targets value =>
      match targets.head?.bind Python.Expr.nameId? with
      | none => .ok conf
      | some target =>
          if target = patternsName then addPatterns background conf value
          else .ok (noteLocal conf target value)
  | .augmented target value =>
      if target.nameId? = some patternsName then addPatterns background conf value else .ok conf
  | .call call => readCall background conf call
  | .class_ _ => .ok conf
  | .function _ => .ok conf

end UrlConf

/-- The methods of the function views of a file. Of two functions of a name that both state methods
the later one counts. -/
def methodTable (body : Python.Module) : KeyMap (List Method) :=
  KeyMap.ofList <| (Python.functionNodes body).filterMap fun decl =>
    (decoratorMethods? decl.decorators).map fun methods => (decl.name, methods)

/-- The view sets of a file. Of two classes of a name the later one counts. -/
def viewSetTable (body : Python.Module) : KeyMap ViewSet :=
  KeyMap.ofList <| (Python.classNodes body).filterMap fun decl =>
    (ViewSet.ofClass? decl).map fun viewSet => (viewSet.name, viewSet)

/-- What a URL configuration says about routes. -/
def findings (body : Python.Module) : Except CyclicPatterns Findings := do
  let background : Background := ⟨Python.imports body, methodTable body⟩
  let conf ← (Python.nodes body).foldlM (UrlConf.read background) {}
  return {
    routes := conf.routes
    includes := conf.includes
    registrations := conf.routers.mounted
    viewSets := viewSetTable body
    imports := background.imports
    importedViews := conf.importedViews }

end RouteAtlas.Django
