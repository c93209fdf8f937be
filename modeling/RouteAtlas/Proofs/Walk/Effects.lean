/-
Module: RouteAtlas.Proofs.Walk.Effects
Layer: Proofs
Purpose: What the steps of a walk yield, apart from the recursion: completed views, view sets and
  the routes of registered resources depend on the project alone, and leave nothing behind but
  warnings. Going to a file is described case by case.
Trusted boundary: none
Main exports: Yields, Site.ownRoutes, Site.viewSet?, Site.registeredRoutesOf, completeViews_yields,
  registeredRoutes_yields, arrive_missing, arrive_passed, arrive_unread, arrive_cyclic, arrive_entered
-/
import RouteAtlas.Project.Walk

namespace RouteAtlas.Project

/-- A part of a walk ends with `value`, whatever was met before, and leaves nothing behind but
warnings. -/
def Yields {α : Type} (walk : Walk α) (value : α) : Prop :=
  ∃ told : List Warning, ∀ progress : Progress,
    walk.run progress = (value, { progress with warnings := progress.warnings ++ told })

namespace Yields

variable {α β : Type}

theorem pure (value : α) : Yields (Pure.pure value : Walk α) value := by
  refine ⟨[], fun progress => ?_⟩
  rw [List.append_nil]
  rfl

theorem tell (warning : Warning) : Yields (Project.tell warning) () :=
  ⟨[warning], fun _ => rfl⟩

/-- One part after the other: the warnings of the second follow those of the first. -/
theorem bind {walk : Walk α} {next : α → Walk β} {value : α} {result : β}
    (first : Yields walk value) (second : Yields (next value) result) :
    Yields (walk >>= next) result := by
  obtain ⟨toldFirst, runFirst⟩ := first
  obtain ⟨toldSecond, runSecond⟩ := second
  refine ⟨toldFirst ++ toldSecond, fun progress => ?_⟩
  rw [StateT.run_bind, runFirst]
  refine (runSecond _).trans ?_
  rw [List.append_assoc]

/-- A function of what a part yields. -/
theorem map {walk : Walk α} {value : α} (f : α → β) (yields : Yields walk value) :
    Yields (do return f (← walk)) (f value) :=
  yields.bind (.pure (f value))

end Yields

namespace Site

/-- The methods that an imported view states in its own file. -/
def viewMethods? (site : Site) (file : DiskPath) (view : ImportedView) : Option (List Method) :=
  (site.modules.locate? site.disk view.module view.level file).bind fun target =>
    (site.disk.parseFile target).toOption.bind fun body =>
      Django.declaredMethods? body view.function

/-- What becomes of the route at a position: one route for each method of its view, if the view is
imported and states methods. -/
def completedRoute (site : Site) (file : DiskPath) (views : List ImportedView) (route : Route)
    (index : Nat) : List Route :=
  match views.find? fun view => view.route == index with
  | none => [route]
  | some view => (site.viewMethods? file view).elim [route] (route.forMethods view.rawPath)

/-- The routes that a file states itself, its imported views completed. -/
def ownRoutes (site : Site) (file : DiskPath) (findings : Findings) : List Route :=
  findings.routes.zipIdx.flatMap fun (route, index) =>
    site.completedRoute file findings.importedViews route index

/-- The view set of an imported class, if its file can be found and read. -/
def importedViewSetOf? (site : Site) (file : DiskPath) (name : String)
    (imported : Python.Imported) : Option Django.ViewSet :=
  (site.modules.locate? site.disk imported.module imported.level file).bind fun target =>
    (site.disk.parseFile target).toOption.bind fun body =>
      viewSetIn? body (imported.symbol.getD name)

/-- The view set of a class name: of the file, else imported, else of the project. -/
def viewSet? (site : Site) (file : DiskPath) (findings : Findings) (name : String) :
    Option Django.ViewSet :=
  (KeyMap.find? name findings.viewSets).or <|
    ((KeyMap.find? name findings.imports).bind (site.importedViewSetOf? file name)).or <|
      KeyMap.find? name site.inventory.viewSets

/-- The routes of the registered resources of a file, under a path. -/
def registeredRoutesOf (site : Site) (file : DiskPath) (findings : Findings) (path : String) :
    List Route :=
  findings.registrations.flatMap fun mounted =>
    Django.resourceRoutes path mounted
      (site.viewSet? file findings mounted.registration.resource)

end Site

/-- Completing views yields the completed routes. Which files of views were told about already makes
no difference to them. -/
theorem completeViews_yields (site : Site) (file : DiskPath) (views : List ImportedView)
    (index : Nat) (told : List DiskPath) (routes : List Route) :
    Yields (completeViews site file views index told routes)
      ((routes.zipIdx index).flatMap fun (route, index) =>
        site.completedRoute file views route index) := by
  induction routes generalizing index told with
  | nil => exact .pure []
  | cons route rest ih =>
      simp only [completeViews, List.zipIdx_cons, List.flatMap_cons, Site.completedRoute]
      cases views.find? fun view => view.route == index with
      | none => exact (ih (index + 1) told).map (route :: ·)
      | some view =>
          simp only [Option.bind_some, Site.viewMethods?]
          cases site.modules.locate? site.disk view.module view.level file with
          | none => exact (ih (index + 1) told).map (route :: ·)
          | some target =>
              simp only [Option.map_some, Option.bind_some]
              cases site.disk.parseFile target with
              | error error =>
                  simp only [Except.toOption, Option.bind_none]
                  split
                  · exact (ih (index + 1) told).map (route :: ·)
                  · exact (Yields.tell (.source error)).bind
                      ((ih (index + 1) (target :: told)).map (route :: ·))
              | ok body =>
                  simp only [Except.toOption, Option.bind_some]
                  cases Django.declaredMethods? body view.function with
                  | none => exact (ih (index + 1) told).map ([route] ++ ·)
                  | some methods =>
                      exact (ih (index + 1) told).map (route.forMethods view.rawPath methods ++ ·)

theorem importedViewSet?_yields (site : Site) (file : DiskPath) (name : String)
    (imported : Python.Imported) :
    Yields (importedViewSet? site file name imported)
      (site.importedViewSetOf? file name imported) := by
  simp only [importedViewSet?, Site.importedViewSetOf?]
  cases site.modules.locate? site.disk imported.module imported.level file with
  | none => exact .pure none
  | some target =>
      simp only [Option.bind_some]
      cases site.disk.parseFile target with
      | error error => exact (Yields.tell (.source error)).bind (.pure none)
      | ok body => exact .pure _

theorem findViewSet_yields (site : Site) (file : DiskPath) (findings : Findings)
    (name : String) :
    Yields (findViewSet site file findings name) (site.viewSet? file findings name) := by
  simp only [findViewSet, Site.viewSet?]
  cases KeyMap.find? name findings.viewSets with
  | some viewSet => exact .pure (some viewSet)
  | none =>
      simp only [Option.none_or]
      cases KeyMap.find? name findings.imports with
      | none => exact (Yields.pure none).bind (.pure _)
      | some imported =>
          exact (importedViewSet?_yields site file name imported).bind (.pure _)

theorem registeredRoutes_yields (site : Site) (file : DiskPath) (findings : Findings)
    (path : String) (registrations : List Django.Mounted) :
    Yields (registeredRoutes site file findings path registrations)
      (registrations.flatMap fun mounted =>
        Django.resourceRoutes path mounted
          (site.viewSet? file findings mounted.registration.resource)) := by
  induction registrations with
  | nil => exact .pure []
  | cons mounted rest ih =>
      rw [registeredRoutes, List.flatMap_cons]
      exact (findViewSet_yields site file findings _).bind (ih.map _)

/-! ### Going to a file

There are four ways in which that can end, and a fifth one for a file that has no answer. -/

section Arrive

variable {site : Site} {file canonical : DiskPath} {scope : Scope} {progress : Progress}

theorem arrive_missing {cause : DiskError} (missing : site.disk.canonical file = .error cause) :
    (arrive site file scope).run progress =
      (none, { progress with warnings := progress.warnings ++ [.skipped file cause] }) := by
  simp only [arrive, missing]
  rfl

theorem arrive_passed (found : site.disk.canonical file = .ok canonical)
    (met : (canonical, scope.symbol) ∈ progress.visited) :
    (arrive site file scope).run progress = (none, progress) := by
  simp [arrive, found, met]
  rfl

theorem arrive_unread {error : SourceError} (found : site.disk.canonical file = .ok canonical)
    (new : (canonical, scope.symbol) ∉ progress.visited)
    (unread : site.disk.parseFile canonical = .error error) :
    (arrive site file scope).run progress =
      (none, { progress with
        visited := (canonical, scope.symbol) :: progress.visited
        warnings := progress.warnings ++ [.source error] }) := by
  simp [arrive, found, new, unread, markVisited, tell]
  rfl

theorem arrive_cyclic {body : Python.Module} {cycle : Django.CyclicPatterns}
    (found : site.disk.canonical file = .ok canonical)
    (new : (canonical, scope.symbol) ∉ progress.visited)
    (parsed : site.disk.parseFile canonical = .ok body)
    (cyclic : site.read scope body = .error cycle) :
    (arrive site file scope).run progress =
      (none, { progress with
        visited := (canonical, scope.symbol) :: progress.visited
        cycle := progress.cycle.or (some cycle) }) := by
  simp [arrive, found, new, parsed, cyclic, markVisited, noteCycle]
  rfl

theorem arrive_entered {body : Python.Module} {findings : Findings}
    (found : site.disk.canonical file = .ok canonical)
    (new : (canonical, scope.symbol) ∉ progress.visited)
    (parsed : site.disk.parseFile canonical = .ok body)
    (answered : site.read scope body = .ok findings) :
    (arrive site file scope).run progress =
      (some (canonical, findings), { progress with
        visited := (canonical, scope.symbol) :: progress.visited
        appName := progress.appName.or findings.appName }) := by
  simp [arrive, found, new, parsed, answered, markVisited, noteAppName]
  rfl

end Arrive

end RouteAtlas.Project
