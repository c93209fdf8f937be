/-
Module: RouteAtlas.Proofs.Walk.Exploration
Layer: Proofs
Purpose: A walk that ends has gone through a forest: what it collects are the routes of the forest,
  and what it has met in addition are the parts that are new in it.
Trusted boundary: none
Main exports: Site.Answers, Explores, visit_explores
-/
import RouteAtlas.Proofs.Walk.Forest

namespace RouteAtlas.Project

/-- Whatever can be parsed has an answer to what it says about routes. -/
def Site.Answers (site : Site) : Prop :=
  ∀ (file : DiskPath) (scope : Scope) (body : Python.Module),
    site.disk.parseFile file = .ok body → ∃ findings, site.read scope body = .ok findings

/-- A walk to some stops, from one state of progress to another, has gone through a forest. -/
structure Explores (site : Site) (stops : List Stop) (forest : Forest) (before after : Progress)
    (routes : List Route) : Prop where
  unfolds : Unfolds site stops forest
  marked : MarkedAfter before.visited forest.arrivals
  visited : after.visited = (firsts forest.arrivals).reverse ++ before.visited
  collected : routes = forest.routes site

namespace Explores

variable {site : Site} {stops others : List Stop} {forest later : Forest}
  {before middle after : Progress} {routes more : List Route}

/-- Nothing is met at no stops. -/
theorem nil (kept : after.visited = before.visited) :
    Explores site [] .done before after [] :=
  ⟨.done, trivial, by simpa using kept, rfl⟩

theorem append (first : Explores site stops forest before middle routes)
    (second : Explores site others later middle after more) :
    Explores site (stops ++ others) (forest.append later) before after (routes ++ more) where
  unfolds := first.unfolds.append second.unfolds
  marked := by
    rw [Forest.arrivals_append]
    exact first.marked.append (first.visited ▸ second.marked)
  visited := by
    rw [second.visited, first.visited, Forest.arrivals_append, firsts_append,
      List.reverse_append, List.append_assoc]
  collected := by rw [first.collected, second.collected, Forest.routes_append]

/-- Only what was visited counts in the states of progress. -/
theorem congr {start stop : Progress} (explores : Explores site stops forest before after routes)
    (sameStart : start.visited = before.visited) (sameStop : stop.visited = after.visited) :
    Explores site stops forest start stop routes where
  unfolds := explores.unfolds
  marked := sameStart ▸ explores.marked
  visited := by rw [sameStop, sameStart, explores.visited]
  collected := explores.collected

end Explores

section Visit

variable {site : Site} {stop : Stop} {file : DiskPath} {before after : Progress}

/-- A file that does not exist is no part of the forest. -/
theorem explores_missing {cause : DiskError}
    (lost : site.disk.canonical stop.file = .error cause)
    (kept : after.visited = before.visited) :
    Explores site [stop] .done before after [] where
  unfolds := .missing lost .done
  marked := trivial
  visited := by simpa using kept
  collected := rfl

theorem explores_passed (found : site.disk.canonical stop.file = .ok file)
    (met : (file, stop.scope.symbol) ∈ before.visited)
    (kept : after.visited = before.visited) :
    Explores site [stop] (.passed (file, stop.scope.symbol) .done) before after [] where
  unfolds := .passed found .done
  marked := ⟨met, trivial⟩
  visited := by simpa using kept
  collected := rfl

theorem explores_unread {error : SourceError} (found : site.disk.canonical stop.file = .ok file)
    (new : (file, stop.scope.symbol) ∉ before.visited)
    (broken : site.disk.parseFile file = .error error)
    (marks : after.visited = (file, stop.scope.symbol) :: before.visited) :
    Explores site [stop] (.unread (file, stop.scope.symbol) .done) before after [] where
  unfolds := .unread found broken .done
  marked := ⟨new, trivial⟩
  visited := by simpa using marks
  collected := rfl

/-- A part that is entered gathers its own routes around those of what is below it. -/
theorem explores_entered {body : Python.Module} {findings : Findings} {below : Forest}
    {entered left : Progress} {included : List Route}
    (found : site.disk.canonical stop.file = .ok file)
    (new : (file, stop.scope.symbol) ∉ before.visited)
    (parsed : site.disk.parseFile file = .ok body)
    (answered : site.read stop.scope body = .ok findings)
    (marks : entered.visited = (file, stop.scope.symbol) :: before.visited)
    (inner : Explores site (site.stops file stop.path findings.includes) below entered left
      included)
    (kept : after.visited = left.visited) :
    Explores site [stop] (.entered ⟨file, stop.path, stop.scope⟩ findings below .done) before after
      ((site.ownRoutes file findings).map (Route.under stop.path) ++ included ++
        site.registeredRoutesOf file findings stop.path) where
  unfolds := .entered found parsed answered inner.unfolds .done
  marked := by
    refine ⟨new, ?_⟩
    rw [Forest.arrivals, List.append_nil]
    exact marks ▸ inner.marked
  visited := by
    rw [kept, inner.visited, marks]
    simp [Stop.part]
  collected := by simp [Forest.routes, inner.collected]

/-- A walk that ends has gone through a forest, from a single file as well as from the references of
one. The induction is on the recursion of the walk. -/
theorem visit_explores (answers : site.Answers) :
    (∀ file path scope before result, site.visit file path scope before = some result →
      ∃ forest, Explores site [⟨file, path, scope⟩] forest before result.2 result.1) ∧
    (∀ file path references before result,
      site.includedRoutes file path references before = some result →
        ∃ forest, Explores site (site.stops file path references) forest before result.2
          result.1) := by
  refine Site.visit.mutual_partial_correctness site
    (fun file path scope before result =>
      ∃ forest, Explores site [⟨file, path, scope⟩] forest before result.2 result.1)
    (fun file path references before result =>
      ∃ forest, Explores site (site.stops file path references) forest before result.2 result.1)
    ?_ ?_
  · intro includes includesExplore file path scope before result run
    cases found : site.disk.canonical file with
    | error cause =>
        rw [arrive_missing found] at run
        obtain rfl := Option.some.inj run
        exact ⟨_, explores_missing found rfl⟩
    | ok canonical =>
        by_cases met : (canonical, scope.symbol) ∈ before.visited
        · rw [arrive_passed found met] at run
          obtain rfl := Option.some.inj run
          exact ⟨_, explores_passed found met rfl⟩
        · cases parsed : site.disk.parseFile canonical with
          | error error =>
              rw [arrive_unread found met parsed] at run
              obtain rfl := Option.some.inj run
              exact ⟨_, explores_unread found met parsed rfl⟩
          | ok body =>
              obtain ⟨findings, answered⟩ := answers canonical scope body parsed
              obtain ⟨toldOwn, runOwn⟩ :=
                completeViews_yields site canonical findings.importedViews 0 [] findings.routes
              obtain ⟨toldRegistered, runRegistered⟩ :=
                registeredRoutes_yields site canonical findings path findings.registrations
              rw [arrive_entered found met parsed answered] at run
              simp only [runOwn, runRegistered, Option.bind_eq_bind,
                Option.bind_eq_some_iff] at run
              obtain ⟨⟨included, left⟩, runIncluded, done⟩ := run
              obtain rfl := Option.some.inj done
              obtain ⟨below, inner⟩ := includesExplore _ _ _ _ _ runIncluded
              exact ⟨_, explores_entered found met parsed answered rfl inner rfl⟩
  · intro visits includes visitExplores includesExplore file path references before result run
    cases references with
    | nil =>
        obtain rfl := Option.some.inj run
        exact ⟨_, .nil rfl⟩
    | cons reference rest =>
        simp only at run
        cases resolved :
            site.modules.resolve site.disk reference.module reference.level file with
        | error error =>
            rw [resolved] at run
            obtain ⟨forest, explores⟩ := includesExplore _ _ _ _ _ run
            refine ⟨forest, ?_⟩
            rw [Site.stops, List.filterMap_cons_none (by rw [resolved]; rfl)]
            exact explores.congr rfl rfl
        | ok target =>
            simp only [resolved, Option.bind_eq_bind, Option.bind_eq_some_iff] at run
            obtain ⟨⟨first, middle⟩, runFirst, ⟨others, after⟩, runOthers, done⟩ := run
            obtain rfl := Option.some.inj done
            obtain ⟨forest, explores⟩ := visitExplores _ _ _ _ _ runFirst
            obtain ⟨later, exploresLater⟩ := includesExplore _ _ _ _ _ runOthers
            refine ⟨forest.append later, ?_⟩
            rw [Site.stops, List.filterMap_cons_some (by rw [resolved]; rfl)]
            exact explores.append exploresLater

end Visit

end RouteAtlas.Project
