/-
Module: RouteAtlas.Proofs.Walk.Placement
Layer: Proofs
Purpose: Under which path a walk is made has no influence on where it goes. It meets the same parts in
  the same order whatever the path is, and every route that it yields is one route of the project put
  under that path: one that a file states itself, one that the file of a view completes, one of a file
  that is referred to, or one of a registered resource.
Trusted boundary: none
Main exports: resourceRoutes_append, registeredRoutes_under, Placed, visit_placed, walk_append
-/
import RouteAtlas.Proofs.Walk.Collection

namespace RouteAtlas

/-! ### Resources -/

namespace Django

variable (outer inner : String) (mounted : Mounted)

theorem collectionPath_append :
    collectionPath (outer ++ inner) mounted = outer ++ collectionPath inner mounted := by
  simp only [collectionPath, String.append_assoc]

/-- All paths of a resource begin with the path of the file. -/
theorem base_append (onItem : Bool) :
    (Resource.ofMounted (outer ++ inner) mounted).base onItem =
      outer ++ (Resource.ofMounted inner mounted).base onItem := by
  cases onItem with
  | false => exact collectionPath_append outer inner mounted
  | true =>
      change itemPath (collectionPath (outer ++ inner) mounted) = _
      rw [collectionPath_append, itemPath, String.append_assoc]
      rfl

/-- The routes of a resource in a file under a longer path are those under the shorter one, put under
what was added. -/
theorem resourceRoutes_append (viewSet : Option ViewSet) :
    resourceRoutes (outer ++ inner) mounted viewSet =
      (resourceRoutes inner mounted viewSet).map (Route.under outer) := by
  have standard : ∀ action : Action,
      (Resource.ofMounted (outer ++ inner) mounted).actionRoute action =
        ((Resource.ofMounted inner mounted).actionRoute action).under outer := by
    intro action
    rw [Resource.actionRoute, base_append]
    rfl
  have extra : ∀ extra : ExtraAction,
      (Resource.ofMounted (outer ++ inner) mounted).extraRoutes extra =
        ((Resource.ofMounted inner mounted).extraRoutes extra).map (Route.under outer) := by
    intro extra
    rw [Resource.extraRoutes, base_append, Resource.extraRoutes, List.map_map]
    apply List.map_congr_left
    intro method _
    simp only [String.append_assoc]
    rfl
  have standards := fun actions : List Action => List.map_congr_left (l := actions) fun action _ =>
    standard action
  have extras : ∀ list : List ExtraAction,
      list.flatMap (Resource.ofMounted (outer ++ inner) mounted).extraRoutes =
        (list.flatMap (Resource.ofMounted inner mounted).extraRoutes).map (Route.under outer) := by
    intro list
    rw [List.map_flatMap]
    exact List.flatMap_congr fun action _ => extra action
  rw [resourceRoutes, standards, extras, resourceRoutes, List.map_append, List.map_map]
  rfl

end Django

namespace Project

/-- What the registered resources of a file yield lies under the path of the file, and they leave the
same behind whatever that path is. -/
theorem registeredRoutes_under (site : Site) (file : DiskPath) (findings : Findings) (path : String)
    (registrations : List Django.Mounted) :
    registeredRoutes site file findings path registrations =
      List.map (Route.under path) <$> registeredRoutes site file findings "" registrations := by
  induction registrations with
  | nil => rfl
  | cons mounted rest ih =>
      have here := Django.resourceRoutes_append path "" mounted
      rw [String.append_empty] at here
      simp only [registeredRoutes, ih, here, map_bind, bind_map_left, map_pure, List.map_append]

/-- What a walk yields lies under its path. With any other path it comes to the same end, and yields the
same routes under that one. -/
def Placed (walk : String → Option (List Route × Progress)) (path : String)
    (result : List Route × Progress) : Prop :=
  ∃ routes : List Route, result.1 = routes.map (Route.under path) ∧
    ∀ other, walk other = some (routes.map (Route.under other), result.2)

/-- A walk that ends yields routes under its path, from a single file as well as from the references of
one. The induction is on the recursion of the walk; going to a file has nothing to do with the path. -/
theorem visit_placed (site : Site) :
    (∀ file path scope before result, site.visit file path scope before = some result →
      Placed (fun other => site.visit file other scope before) path result) ∧
    (∀ file path references before result,
      site.includedRoutes file path references before = some result →
        Placed (fun other => site.includedRoutes file other references before) path result) := by
  refine Site.visit.mutual_partial_correctness site
    (fun file path scope before result =>
      Placed (fun other => site.visit file other scope before) path result)
    (fun file path references before result =>
      Placed (fun other => site.includedRoutes file other references before) path result) ?_ ?_
  · intro includes includesPlaced file path scope before result run
    cases arrived : (arrive site file scope).run before with
    | mk goal middle =>
        rw [arrived] at run
        cases goal with
        | none =>
            obtain rfl := Option.some.inj run
            refine ⟨[], rfl, fun other => ?_⟩
            simp only [Site.visit, arrived]
            rfl
        | some entered =>
            obtain ⟨canonical, findings⟩ := entered
            simp only [registeredRoutes_under site canonical findings path] at run
            obtain ⟨⟨included, left⟩, runIncluded, done⟩ := Option.bind_eq_some_iff.1 run
            obtain rfl := Option.some.inj done
            obtain ⟨inner, rfl, again⟩ := includesPlaced _ _ _ _ _ runIncluded
            let own := ((completeViews site canonical findings.importedViews 0 []
              findings.routes).run middle).1
            let registered := ((registeredRoutes site canonical findings ""
              findings.registrations).run left).1
            refine ⟨own ++ inner ++ registered, ?_, fun other => ?_⟩
            · rw [List.map_append, List.map_append]
              rfl
            · simp only [Site.visit, arrived, registeredRoutes_under site canonical findings other]
              refine Option.bind_eq_some_iff.2 ⟨_, again other, ?_⟩
              rw [List.map_append, List.map_append]
              rfl
  · intro visits includes visitPlaced includesPlaced file path references before result run
    cases references with
    | nil =>
        obtain rfl := Option.some.inj run
        refine ⟨[], rfl, fun other => ?_⟩
        simp only [Site.includedRoutes]
        rfl
    | cons reference rest =>
        simp only at run
        cases resolved :
            site.modules.resolve site.disk reference.module reference.level file with
        | error error =>
            rw [resolved] at run
            obtain ⟨routes, split, again⟩ := includesPlaced _ _ _ _ _ run
            refine ⟨routes, split, fun other => ?_⟩
            simp only [Site.includedRoutes, resolved]
            exact again other
        | ok target =>
            rw [resolved] at run
            obtain ⟨⟨first, middle⟩, runFirst, continued⟩ := Option.bind_eq_some_iff.1 run
            obtain ⟨⟨others, after⟩, runOthers, done⟩ := Option.bind_eq_some_iff.1 continued
            obtain rfl := Option.some.inj done
            obtain ⟨firstRoutes, rfl, firstAgain⟩ := visitPlaced _ _ _ _ _ runFirst
            obtain ⟨otherRoutes, rfl, othersAgain⟩ := includesPlaced _ _ _ _ _ runOthers
            -- what the reference leads to lies under its own path first, then under that of the file
            refine ⟨firstRoutes.map (Route.under reference.path) ++ otherRoutes, ?_, fun other => ?_⟩
            · simp only [List.map_append, List.map_map, Function.comp_def, Route.under_under]
            · simp only [Site.includedRoutes, resolved]
              refine Option.bind_eq_some_iff.2 ⟨_, firstAgain (other ++ reference.path), ?_⟩
              refine Option.bind_eq_some_iff.2 ⟨_, othersAgain other, ?_⟩
              simp only [List.map_append, List.map_map, Function.comp_def, Route.under_under]
              rfl

section Append

variable (site : Site) (outer inner : String) (progress : Progress)

/-- A walk under a longer path yields the routes of the one under the shorter path, put under what was
added, and ends if and only if that one does. -/
theorem visit_append (file : DiskPath) (scope : Scope) :
    site.visit file (outer ++ inner) scope progress =
      (site.visit file inner scope progress).map fun result =>
        (result.1.map (Route.under outer), result.2) := by
  cases shorter : site.visit file inner scope progress with
  | some result =>
      obtain ⟨routes, split, again⟩ := (visit_placed site).1 _ _ _ _ _ shorter
      refine (again (outer ++ inner)).trans ?_
      rw [Option.map_some, split, List.map_map]
      simp only [Function.comp_def, Route.under_under]
  | none =>
      cases longer : site.visit file (outer ++ inner) scope progress with
      | none => rfl
      | some result =>
          obtain ⟨_, _, again⟩ := (visit_placed site).1 _ _ _ _ _ longer
          cases shorter.symm.trans (again inner)

/-- The route with a longer path, and the parameters of that. -/
def prepended (outer : String) (route : Route) : Route :=
  { route with
    path := outer ++ route.path
    parameters := Url.parametersOf (Url.template (outer ++ route.path)) }

theorem withParameters_under (route : Route) :
    withParameters (route.under outer) = prepended outer (withParameters route) := by
  simp only [withParameters, Route.under, prepended]

/-- A walk of a project from an entry file under a path that is put together of two yields the same
routes in the same order as the walk under the second one, with the first one before every path.
Methods, identifiers, descriptions and handlers are the same, and the parameters are those of the
longer path. What the walk leaves behind is the same too. It ends if and only if the other one
does; and so it does, in terms of either framework, from a fresh start. -/
theorem walk_append (entry : DiskPath) :
    site.walk? entry (outer ++ inner) progress =
        (site.walk? entry inner progress).map (fun result =>
          (result.1.map (prepended outer), result.2)) ∧
      ((site.walk entry (outer ++ inner)).run progress =
        (((site.walk entry inner).run progress).1.map (prepended outer),
          ((site.walk entry inner).run progress).2)) ∧
      ∀ framework : Framework, site.read = framework.findings → site.Answers →
        ∃ result, site.walk? entry inner {} = some result := by
  have shifted : site.walk? entry (outer ++ inner) progress =
      (site.walk? entry inner progress).map fun result =>
        (result.1.map (prepended outer), result.2) := by
    rw [Site.walk?, visit_append, Site.walk?]
    cases site.visit entry inner {} progress with
    | none => rfl
    | some result =>
        simp only [Option.map_some, Option.bind_eq_bind, Option.bind_some, Option.pure_def,
          List.map_map, Function.comp_def, withParameters_under]
  refine ⟨shifted, ?_, fun framework reads answers => ?_⟩
  · change (site.walk? entry (outer ++ inner) progress).getD _ = _
    rw [shifted]
    change _ = (((site.walk? entry inner progress).getD ([], progress)).1.map (prepended outer),
      ((site.walk? entry inner progress).getD ([], progress)).2)
    cases site.walk? entry inner progress with
    | none => rfl
    | some result => rfl
  · have few : ∀ body, (asked site.read body).Finite := fun body =>
      reads ▸ framework.asked_finite body
    exact walk_ends answers (Site.reaches_finite few entry) inner

end Append

theorem selfRegistered_append :
    selfRegistered.read = Framework.flask.findings ∧ selfRegistered.Answers ∧
      ∃ result, selfRegistered.walk? ⟨"/app.py"⟩ "shop/" {} = some result ∧
        selfRegistered.walk? ⟨"/app.py"⟩ ("api/" ++ "shop/") {} =
          some (result.1.map (prepended "api/"), result.2) := by
  have answers : selfRegistered.Answers := fun _ scope body _ =>
    Framework.flask_answers scope body
  obtain ⟨shifted, _, ends⟩ := walk_append selfRegistered "api/" "shop/" {} ⟨"/app.py"⟩
  obtain ⟨result, walks⟩ := ends .flask rfl answers
  refine ⟨rfl, answers, result, walks, ?_⟩
  rw [shifted, walks, Option.map_some]

end Project

end RouteAtlas
