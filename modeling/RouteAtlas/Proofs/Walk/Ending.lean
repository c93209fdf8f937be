/-
Module: RouteAtlas.Proofs.Walk.Ending
Layer: Proofs
Purpose: When a walk ends. Every part is marked where it is first met, so that a walk inside a finite
  set of parts, one that no reference leads out of, comes to its end.
Trusted boundary: none
Main exports: Site.Closed, Site.closed_reaches, visit_ends
-/
import Mathlib.Data.Set.Card
import RouteAtlas.Proofs.Walk.Reach

namespace RouteAtlas.Project

/-- No reference leads out of a set of parts. -/
def Site.Closed (site : Site) (parts : Set Part) : Prop :=
  ∀ part ∈ parts, ∀ findings, site.Finds part findings → ∀ reference ∈ findings.includes,
    ∀ target, site.modules.resolve site.disk reference.module reference.level part.1 = .ok target →
      ∀ file, site.disk.canonical target = .ok file → (file, reference.symbol) ∈ parts

theorem Site.closed_reaches (site : Site) (entry : DiskPath) :
    site.Closed {part | site.Reaches site.Finds entry part} :=
  fun _ earlier _ there _ listed _ resolved _ present =>
    .follow earlier there listed resolved present

/-- The parts of a set that were not met yet. -/
def unmet (parts : Set Part) (progress : Progress) : Set Part :=
  {part | part ∈ parts ∧ part ∉ progress.visited}

section Ending

variable {site : Site} {parts : Set Part} {before after : Progress}

theorem unmet_finite (finite : parts.Finite) : (unmet parts before).Finite :=
  finite.subset fun _ left => left.1

theorem unmet_ncard_le (finite : parts.Finite)
    (grown : ∀ part ∈ before.visited, part ∈ after.visited) :
    (unmet parts after).ncard ≤ (unmet parts before).ncard := by
  have fewer : unmet parts after ⊆ unmet parts before := by
    rintro part ⟨member, new⟩
    exact ⟨member, fun met => new (grown part met)⟩
  exact Set.ncard_le_ncard fewer (unmet_finite finite)

theorem unmet_ncard_lt {part : Part} (finite : parts.Finite) (member : part ∈ parts)
    (new : part ∉ before.visited) (marks : after.visited = part :: before.visited) :
    (unmet parts after).ncard < (unmet parts before).ncard := by
  have fewer : unmet parts after ⊆ unmet parts before := by
    rintro other ⟨inside, left⟩
    rw [marks] at left
    exact ⟨inside, fun met => left (List.mem_cons_of_mem part met)⟩
  have differ : ¬ unmet parts before ⊆ unmet parts after := by
    intro subset
    obtain ⟨_, left⟩ := subset ⟨member, new⟩
    rw [marks] at left
    exact left List.mem_cons_self
  exact Set.ncard_lt_ncard ⟨fewer, differ⟩ (unmet_finite finite)

/-- A walk forgets nothing that it has met. -/
theorem Explores.grown {stops : List Stop} {forest : Forest} {routes : List Route}
    (explores : Explores site stops forest before after routes) :
    ∀ part ∈ before.visited, part ∈ after.visited := by
  intro part met
  rw [explores.visited]
  exact List.mem_append_right _ met

/-- If walks to single files end while no more than `bound` parts are unmet, then so does a walk along
references. -/
theorem includedRoutes_ends (answers : site.Answers) (finite : parts.Finite) {bound : Nat}
    (visitEnds : ∀ (before : Progress), (unmet parts before).ncard ≤ bound →
      ∀ (file : DiskPath) (path : String) (scope : Scope),
        (∀ canonical, site.disk.canonical file = .ok canonical →
          (canonical, scope.symbol) ∈ parts) →
        ∃ result, site.visit file path scope before = some result)
    (file : DiskPath) (path : String) {references : List Include}
    (inside : ∀ reference ∈ references, ∀ target,
      site.modules.resolve site.disk reference.module reference.level file = .ok target →
        ∀ canonical, site.disk.canonical target = .ok canonical →
          (canonical, reference.symbol) ∈ parts)
    (few : (unmet parts before).ncard ≤ bound) :
    ∃ result, site.includedRoutes file path references before = some result := by
  induction references generalizing before with
  | nil => exact ⟨_, by rw [Site.includedRoutes]⟩
  | cons reference rest ih =>
      have insideRest := fun other member => inside other (List.mem_cons_of_mem reference member)
      rw [Site.includedRoutes]
      cases resolved : site.modules.resolve site.disk reference.module reference.level file with
      | error error => exact ih insideRest few
      | ok target =>
          obtain ⟨⟨first, middle⟩, runFirst⟩ := visitEnds before few target
            (path ++ reference.path) reference.scope
            (inside reference List.mem_cons_self target resolved)
          obtain ⟨_, explores⟩ := (visit_explores answers).1 _ _ _ _ _ runFirst
          obtain ⟨⟨others, after⟩, runOthers⟩ :=
            ih insideRest ((unmet_ncard_le finite explores.grown).trans few)
          exact ⟨(first ++ others, after), by simp [runFirst, runOthers]⟩

/-- A part that is entered ends as soon as the walk along its references does. -/
theorem visit_ends_of_entered {file canonical : DiskPath} {path : String} {scope : Scope}
    {body : Python.Module} {findings : Findings}
    (found : site.disk.canonical file = .ok canonical)
    (new : (canonical, scope.symbol) ∉ before.visited)
    (parsed : site.disk.parseFile canonical = .ok body)
    (answered : site.read scope body = .ok findings)
    (includedEnds : ∀ entered : Progress,
      entered.visited = (canonical, scope.symbol) :: before.visited →
        ∃ result, site.includedRoutes canonical path findings.includes entered = some result) :
    ∃ result, site.visit file path scope before = some result := by
  obtain ⟨toldOwn, runOwn⟩ :=
    completeViews_yields site canonical findings.importedViews 0 [] findings.routes
  obtain ⟨_, runRegistered⟩ :=
    registeredRoutes_yields site canonical findings path findings.registrations
  obtain ⟨_, runIncluded⟩ := includedEnds
    { before with
      visited := (canonical, scope.symbol) :: before.visited
      appName := before.appName.or findings.appName
      warnings := before.warnings ++ toldOwn } rfl
  rw [Site.visit, arrive_entered found new parsed answered]
  simp only [runOwn, runRegistered, runIncluded]
  exact ⟨_, rfl⟩

/-- A walk inside a finite set of parts ends. The induction is on the number of parts of the set that
are unmet, which falls whenever a part is entered. -/
theorem visit_ends (answers : site.Answers) (finite : parts.Finite) (closed : site.Closed parts)
    {bound : Nat} (few : (unmet parts before).ncard ≤ bound) (file : DiskPath) (path : String)
    (scope : Scope)
    (inside : ∀ canonical, site.disk.canonical file = .ok canonical →
      (canonical, scope.symbol) ∈ parts) :
    ∃ result, site.visit file path scope before = some result := by
  induction bound using Nat.strong_induction_on generalizing before file path scope with
  | _ bound ih =>
      cases found : site.disk.canonical file with
      | error cause => exact ⟨_, by rw [Site.visit, arrive_missing found]⟩
      | ok canonical =>
          by_cases met : (canonical, scope.symbol) ∈ before.visited
          · exact ⟨_, by rw [Site.visit, arrive_passed found met]⟩
          · cases parsed : site.disk.parseFile canonical with
            | error error => exact ⟨_, by rw [Site.visit, arrive_unread found met parsed]⟩
            | ok body =>
                obtain ⟨findings, answered⟩ := answers canonical scope body parsed
                have member := inside canonical found
                refine visit_ends_of_entered found met parsed answered fun entered marks => ?_
                have fewer : (unmet parts entered).ncard < bound :=
                  (unmet_ncard_lt finite member met marks).trans_le few
                refine includedRoutes_ends answers finite ?_ canonical path ?_ le_rfl
                · exact fun other fewOther => ih _ fewer fewOther
                · exact closed _ member findings ⟨scope.urlPath, body, parsed, answered⟩

end Ending

end RouteAtlas.Project
