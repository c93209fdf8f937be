/-
Module: RouteAtlas.Project.Walk
Layer: Project
Purpose: Collecting the routes of a project, from its entry file along the references between files.
  Each part of a file is read once, where a walk first meets it, so that cycles end and the first
  path to a file is the one that counts. What cannot be found or read is passed over with a warning.
Trusted boundary: none
Main exports: Site, Progress, Walk, arrive, Site.visit, Site.walk?, Site.walk
-/
import RouteAtlas.Framework
import RouteAtlas.Django.Resource
import RouteAtlas.Project.Inventory
import RouteAtlas.Project.Modules
import RouteAtlas.Url.Template

namespace RouteAtlas.Project

/-- A project as a walk sees it: its files, where modules are, what classes it has, and what a file
says about routes. -/
structure Site where
  disk : Disk
  modules : SearchPath
  inventory : Inventory
  read : Scope → Python.Module → Except Django.CyclicPatterns Findings

/-- How far a walk has come: which parts of which files it has met, the name of the first application
object, and what a user is to be told. -/
structure Progress where
  visited : List (DiskPath × Option String) := []
  appName : Option String := none
  warnings : List Warning := []
  cycle : Option Django.CyclicPatterns := none
deriving Repr, Inhabited

/-- Computations that are part of a walk. -/
abbrev Walk := StateM Progress

/-- Tell a user something. -/
def tell (warning : Warning) : Walk Unit :=
  modify fun progress => { progress with warnings := progress.warnings ++ [warning] }

/-- Note that a part of a file has been met. -/
def markVisited (file : DiskPath) (symbol : Option String) : Walk Unit :=
  modify fun progress => { progress with visited := (file, symbol) :: progress.visited }

/-- Note the name of an application object; the first one is kept. -/
def noteAppName (name : Option String) : Walk Unit :=
  modify fun progress => { progress with appName := progress.appName.or name }

/-- Note a pattern list that contains itself; the first one is kept. -/
def noteCycle (cycle : Django.CyclicPatterns) : Walk Unit :=
  modify fun progress => { progress with cycle := progress.cycle.or (some cycle) }

/-- The routes of a file with the methods that imported views state, `index` being the position of
the first of them. A file of views that cannot be read gives one warning. -/
def completeViews (site : Site) (file : DiskPath) (views : List ImportedView) (index : Nat)
    (told : List DiskPath) : List Route → Walk (List Route)
  | [] => pure []
  | route :: rest => do
      let view := views.find? fun view => view.route == index
      let located := view.bind fun view =>
        (site.modules.locate? site.disk view.module view.level file).map fun target =>
          (view, target)
      match located with
      | none => return route :: (← completeViews site file views (index + 1) told rest)
      | some (view, target) =>
          match site.disk.parseFile target with
          | .error error =>
              if told.any target.same then
                return route :: (← completeViews site file views (index + 1) told rest)
              else
                tell (.source error)
                return route ::
                  (← completeViews site file views (index + 1) (target :: told) rest)
          | .ok body =>
              let completed :=
                match Django.declaredMethods? body view.function with
                | some methods => route.forMethods view.rawPath methods
                | none => [route]
              return completed ++ (← completeViews site file views (index + 1) told rest)

/-- The view set that a class at the top level of a file defines. -/
def viewSetIn? (body : Python.Module) (className : String) : Option Django.ViewSet :=
  (body.filterMap Python.Stmt.asClass?).findSome? fun decl =>
    if decl.name = className then Django.ViewSet.ofClass? decl else none

/-- The view set of a class name that is imported. -/
def importedViewSet? (site : Site) (file : DiskPath) (name : String)
    (imported : Python.Imported) : Walk (Option Django.ViewSet) :=
  match site.modules.locate? site.disk imported.module imported.level file with
  | none => return none
  | some target =>
      match site.disk.parseFile target with
      | .error error => do
          tell (.source error)
          return none
      | .ok body => return viewSetIn? body (imported.symbol.getD name)

/-- The view set of a class name: one of the file, or an imported one, or else any one of the
project. -/
def findViewSet (site : Site) (file : DiskPath) (findings : Findings) (name : String) :
    Walk (Option Django.ViewSet) :=
  match KeyMap.find? name findings.viewSets with
  | some viewSet => return some viewSet
  | none => do
      let imported ←
        match KeyMap.find? name findings.imports with
        | some imported => importedViewSet? site file name imported
        | none => pure none
      return imported.or (KeyMap.find? name site.inventory.viewSets)

/-- The routes of the resources that are registered in a file. -/
def registeredRoutes (site : Site) (file : DiskPath) (findings : Findings) (path : String) :
    List Django.Mounted → Walk (List Route)
  | [] => pure []
  | mounted :: rest => do
      let viewSet ← findViewSet site file findings mounted.registration.resource
      let others ← registeredRoutes site file findings path rest
      return Django.resourceRoutes path mounted viewSet ++ others

/-- Go to a file, for the part of it that a scope asks for. There is something to be read if it exists,
if the part was not met before, and if the file can be parsed. -/
def arrive (site : Site) (file : DiskPath) (scope : Scope) :
    Walk (Option (DiskPath × Findings)) := do
  match site.disk.canonical file with
  | .error cause =>
      tell (.skipped file cause)
      return none
  | .ok canonical =>
      if (← get).visited.contains (canonical, scope.symbol) then return none
      else
        markVisited canonical scope.symbol
        match site.disk.parseFile canonical with
        | .error error =>
            tell (.source error)
            return none
        | .ok body =>
            match site.read scope body with
            | .error cycle =>
                noteCycle cycle
                return none
            | .ok findings =>
                noteAppName findings.appName
                return some (canonical, findings)

namespace Site

-- The calls below are piped, because a call of another form would leave its place in the file inside
-- the fixed point.
mutual

/-- The routes of a part of a file under a path: its own, those of the files that it refers to, and
those of its registered resources. A walk along ever new parts of files has no result. -/
def visit (site : Site) (file : DiskPath) (path : String) (scope : Scope)
    (progress : Progress) : Option (List Route × Progress) :=
  match (arrive site file scope).run progress with
  | (none, progress) => some ([], progress)
  | (some (canonical, findings), progress) => do
      let views := findings.importedViews
      let (own, progress) :=
        (completeViews site canonical views 0 [] findings.routes).run progress
      let (included, progress) ← site |>.includedRoutes canonical path findings.includes progress
      let (registered, progress) :=
        (registeredRoutes site canonical findings path findings.registrations).run progress
      return (own.map (Route.under path) ++ included ++ registered, progress)
partial_fixpoint

/-- The routes of the files that a file refers to. -/
def includedRoutes (site : Site) (file : DiskPath) (path : String) (references : List Include)
    (progress : Progress) : Option (List Route × Progress) :=
  match references with
  | [] => some ([], progress)
  | reference :: rest =>
      match site.modules.resolve site.disk reference.module reference.level file with
      | .ok target => do
          let (first, progress) ←
            site |>.visit target (path ++ reference.path) reference.scope progress
          let (others, progress) ← site |>.includedRoutes file path rest progress
          return (first ++ others, progress)
      | .error error =>
          site |>.includedRoutes file path rest ((tell (.source error)).run progress).2
partial_fixpoint

end

end Site

/-- A route with its parameters: the placeholders of its template. -/
def withParameters (route : Route) : Route :=
  { route with parameters := Url.parametersOf (Url.template route.path) }

namespace Site

/-- The routes of a project from an entry file on, all of them under a path, if the walk ends. -/
def walk? (site : Site) (file : DiskPath) (path : String) (progress : Progress) :
    Option (List Route × Progress) := do
  let (routes, progress) ← site.visit file path {} progress
  return (routes.map withParameters, progress)

/-- The routes of a walk that ends. -/
def walk (site : Site) (file : DiskPath) (path : String) : Walk (List Route) := fun progress =>
  (site.walk? file path progress).getD ([], progress)

end Site

end RouteAtlas.Project
