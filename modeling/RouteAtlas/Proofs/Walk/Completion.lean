/-
Module: RouteAtlas.Proofs.Walk.Completion
Layer: Proofs
Purpose: What becomes of the routes of a URL configuration when the files of its imported views are looked
  at. The routes stay in order, and none is lost: where a view is noted and states methods, its route
  makes place for a block with one route for each of them; every other route stays as it is.
Trusted boundary: none
Main exports: Site.viewMethods?_stated, find?_view, Completes, completedRoute_completes,
  findings_completed
-/
import RouteAtlas.Proofs.Django.Blocks
import RouteAtlas.Proofs.Walk.Effects

namespace RouteAtlas.Project

open Django (findings consumptions Consumes NamesView Entry turn)

/-- An imported view states some methods, each of them once. -/
theorem Site.viewMethods?_stated (site : Site) (file : DiskPath) (view : ImportedView) :
    AllStated (site.viewMethods? file view) := by
  apply AllStated.bind
  intro target
  apply AllStated.bind
  intro body
  exact Django.declaredMethods?_stated body view.function

/-- No other view is noted with the position of a view. -/
theorem find?_view {routes : List Route} {views : List ImportedView}
    (aligned : Django.UrlConf.Aligned routes views) {view : ImportedView} (member : view ∈ views) :
    (views.find? fun other => other.route == view.route) = some view := by
  have distinct : (views.map ImportedView.route).Nodup := by
    rw [List.Nodup, List.pairwise_map]
    exact aligned.increasing.imp fun less => Nat.ne_of_lt less
  cases found : views.find? fun other => other.route == view.route with
  | none =>
      have apart := List.find?_eq_none.1 found view member
      simp at apart
  | some other =>
      have same : other.route = view.route := by simpa using List.find?_some found
      rw [List.inj_on_of_nodup_map distinct (List.mem_of_find?_eq_some found) member same]

/-- What becomes of the route at a position. If the view that is noted with it states methods, it is a
block with a route for each of them, in their order; if not, it is the route alone. -/
structure Completes (site : Site) (file : DiskPath) (views : List ImportedView) (index : Nat)
    (route : Route) (block : List Route) : Prop where
  stated : ∀ view ∈ views, view.route = index →
    ∀ methods, site.viewMethods? file view = some methods →
      IsBlock route.path route.handler block ∧ block.map Route.method = methods
  kept : (∀ view ∈ views, view.route = index → site.viewMethods? file view = none) →
    block = [route]

theorem completedRoute_completes (site : Site) (file : DiskPath) {routes : List Route}
    {views : List ImportedView} (aligned : Django.UrlConf.Aligned routes views) (index : Nat)
    (route : Route) :
    Completes site file views index route (site.completedRoute file views route index) := by
  constructor
  · rintro view member rfl methods answered
    have isBlock := route.forMethods_isBlock view.rawPath
      (site.viewMethods?_stated file view methods answered)
    rw [Site.completedRoute, find?_view aligned member]
    simp only [answered, Option.elim_some]
    exact ⟨isBlock, route.forMethods_methods view.rawPath methods⟩
  · intro silent
    rw [Site.completedRoute]
    cases found : views.find? fun view => view.route == index with
    | none => rfl
    | some view =>
        have here : view.route = index := by simpa using List.find?_some found
        simp only [silent view (List.mem_of_find?_eq_some found) here, Option.elim_none]

/-- The routes of a URL configuration, in its own file and once its imported views are looked up.

The views that are to be looked up are noted with increasing positions, each with that of a route for
`GET` whose path ends with the one of the call that names the view. All routes are those that the
entries contribute that are consumed in the file, one after the other. An entry that names a view,
which every consumed call does that has a literal path and includes nothing, contributes a block of
routes with its path and its handler, for different methods; no other entry contributes any.

Whatever the files of the project are, looking up the views yields one block for each route, in order:
the route alone, or, where a view is noted and states methods, one route for each of them with the same
path and handler. -/
theorem findings_completed {body : Python.Module} {found : Findings}
    (answered : findings body = .ok found) :
    (found.importedViews.Pairwise fun view other => view.route < other.route) ∧
    (∀ view ∈ found.importedViews, view.route < found.routes.length ∧
      ∃ route, found.routes[view.route]? = some route ∧ route.method = .get ∧
        ∃ front, route.path = front ++ view.rawPath) ∧
    (∃ taken, List.Forall₂ (fun consumption entries =>
        Consumes (Python.imports body) consumption.lists [("", consumption.patterns)] entries)
        (consumptions [] (Python.nodes body)) taken ∧
      (∀ path raw call, Entry.route path raw call ∈ taken.flatten →
        NamesView raw call ∧ ∃ front, path = front ++ raw) ∧
      ∃ blocks, List.Forall₂ Entry.Contributes taken.flatten blocks ∧
        found.routes = blocks.flatten) ∧
    (∀ lists path raw call, NamesView raw call →
      turn (Python.imports body) lists path (.call call.func call.args call.keywords) =
        ([.route (path ++ raw) raw call], [])) ∧
    ∀ (site : Site) (file : DiskPath) (progress : Progress),
      ∃ completed, List.Forall₂ (fun (placed : Route × Nat) block =>
          Completes site file found.importedViews placed.2 placed.1 block)
          found.routes.zipIdx completed ∧
        ((completeViews site file found.importedViews 0 [] found.routes).run progress).1 =
          completed.flatten := by
  obtain ⟨taken, consume, sound, contributed, aligned⟩ := Django.findings_adds answered
  refine ⟨aligned.increasing, fun view member => ?_,
    ⟨taken, consume, fun path raw call member => sound _ member, contributed⟩,
    fun lists path raw call names => Django.turn_namesView names path,
    fun site file progress => ?_⟩
  · obtain ⟨route, there, rest⟩ := aligned.placed view member
    exact ⟨(List.getElem?_eq_some_iff.1 there).1, route, there, rest⟩
  · obtain ⟨told, run⟩ := completeViews_yields site file found.importedViews 0 [] found.routes
    refine ⟨found.routes.zipIdx.map fun placed =>
      site.completedRoute file found.importedViews placed.1 placed.2, ?_, ?_⟩
    · rw [List.forall₂_map_right_iff]
      apply List.forall₂_same.2
      intro placed _
      exact completedRoute_completes site file aligned placed.2 placed.1
    · rw [run, List.flatMap_def]

/-- URLs with a view of the file, for two methods, and in a local list one that is imported. -/
def mixedViews : Python.Module :=
  [.importsFrom (some "views") 0 [⟨"tasks", none⟩],
    .function "notes" [.call (.name "api_view") [.list [.constant (.text "GET"),
      .constant (.text "POST")]] []] [.simple],
    .assign [.name "inner"] (.list [.call (.name "path") [.constant (.text "b/"), .name "tasks"] []]),
    .assign [.name "urlpatterns"] (.list [
      .call (.name "path") [.constant (.text "a/"), .name "notes"] [],
      .call (.name "path") [.constant (.text "n/"),
        .call (.name "include") [.name "inner"] []] []])]

/-- The file of the imported view, which answers to two other methods. -/
def viewsProject : Site where
  disk := { tree := .directory [
    ("views.py", .file "@api_view(['PUT', 'POST'])\ndef tasks(r):\n  pass\n".toUTF8)] }
  modules := .ofProject ⟨"/"⟩ ⟨"/urls.py"⟩ []
  inventory := {}
  read := Framework.django.findings

theorem viewsProject_methods : viewsProject.viewMethods? ⟨"/urls.py"⟩ ⟨2, "b/", "views", 0, "tasks"⟩ =
    some [.put, .post] := by
  decide +kernel

/-- The imported view is noted with the position of its route, the third one, and looking it up puts a
block for its two methods there. -/
theorem mixedViews_completed : ∃ found, findings mixedViews = .ok found ∧
    found.importedViews = [⟨2, "b/", "views", 0, "tasks"⟩] ∧
    (∃ route, found.routes[2]? = some route ∧ route.method = .get ∧
      ∃ front, route.path = front ++ "b/") ∧
    ∃ first second block,
      ((completeViews viewsProject ⟨"/urls.py"⟩ found.importedViews 0 [] found.routes).run {}).1 =
        [first] ++ [second] ++ block ∧ block.map Route.method = [.put, .post] := by
  obtain ⟨found, answered, views, routes⟩ : ∃ found, findings mixedViews = .ok found ∧
      found.importedViews = [⟨2, "b/", "views", 0, "tasks"⟩] ∧
      ∃ one two three, found.routes = [one, two, three] := ⟨_, rfl, rfl, _, _, _, rfl⟩
  obtain ⟨one, two, three, routes⟩ := routes
  obtain ⟨_, placed, _, _, completes⟩ := findings_completed answered
  refine ⟨found, answered, views, ?_, ?_⟩
  · exact (placed _ (views ▸ List.mem_singleton.2 rfl)).2
  · obtain ⟨completed, each, run⟩ := completes viewsProject ⟨"/urls.py"⟩ {}
    simp only [routes, List.zipIdx_cons, List.zipIdx_nil] at each
    rcases each with _ | ⟨first, _ | ⟨second, _ | ⟨third, _ | _⟩⟩⟩
    have elsewhere : ∀ index ≠ 2, ∀ view ∈ found.importedViews, view.route = index →
        viewsProject.viewMethods? ⟨"/urls.py"⟩ view = none := by
      intro index other view listed here
      rw [views] at listed
      rw [List.mem_singleton.1 listed] at here
      exact absurd here.symm other
    have methods := (third.stated _ (views ▸ List.mem_singleton.2 rfl) rfl _
      viewsProject_methods).2
    refine ⟨one, two, _, ?_, methods⟩
    rw [run, first.kept (elsewhere 0 (by decide)), second.kept (elsewhere 1 (by decide))]
    simp

end RouteAtlas.Project
