/-
Module: RouteAtlas.Proofs.Walk.Revision
Layer: Proofs
Purpose: Walks of a project whose files make other references than they state: a revision says for each
  file, and each scope that it is read in, what becomes of its references. If they all stay, the walk
  is the walk of the project.
Trusted boundary: none
Main exports: Revision, unrevised, Site.visitRevised, Site.walkRevised?, visitRevised_unrevised,
  walkRevised_unrevised
-/
import RouteAtlas.Project.Walk

namespace RouteAtlas.Project

/-- What becomes of the references of a file that is read in a scope. -/
abbrev Revision := DiskPath → Scope → List Include → List Include

/-- Every file keeps its references. -/
def unrevised : Revision := fun _ _ references => references

namespace Site

mutual

/-- The routes of a part of a file under a path, if the references of files are revised. -/
def visitRevised (site : Site) (revision : Revision) (file : DiskPath) (path : String)
    (scope : Scope) (progress : Progress) : Option (List Route × Progress) :=
  match (arrive site file scope).run progress with
  | (none, progress) => some ([], progress)
  | (some (canonical, findings), progress) => do
      let views := findings.importedViews
      let (own, progress) :=
        (completeViews site canonical views 0 [] findings.routes).run progress
      let references := revision canonical scope findings.includes
      let (included, progress) ←
        site |>.includedRevised revision canonical path references progress
      let (registered, progress) :=
        (registeredRoutes site canonical findings path findings.registrations).run progress
      return (own.map (Route.under path) ++ included ++ registered, progress)
partial_fixpoint

/-- The routes of the files that a file refers to. -/
def includedRevised (site : Site) (revision : Revision) (file : DiskPath) (path : String)
    (references : List Include) (progress : Progress) : Option (List Route × Progress) :=
  match references with
  | [] => some ([], progress)
  | reference :: rest =>
      match site.modules.resolve site.disk reference.module reference.level file with
      | .ok target => do
          let (first, progress) ←
            site |>.visitRevised revision target (path ++ reference.path) reference.scope progress
          let (others, progress) ← site |>.includedRevised revision file path rest progress
          return (first ++ others, progress)
      | .error error =>
          site |>.includedRevised revision file path rest ((tell (.source error)).run progress).2
partial_fixpoint

end

/-- The routes of a project from an entry file on, if the references of files are revised. -/
def walkRevised? (site : Site) (revision : Revision) (file : DiskPath) (path : String)
    (progress : Progress) : Option (List Route × Progress) := do
  let (routes, progress) ← site.visitRevised revision file path {} progress
  return (routes.map withParameters, progress)

end Site

/-- Two steps that end come to the same end if each of them is made by others too. -/
theorem bind_of_steps {α β : Type} {first again : Option α} {next onward : α → Option β} {result : β}
    (same : ∀ value, first = some value → again = some value)
    (goesOn : ∀ value, next value = some result → onward value = some result)
    (run : first.bind next = some result) : again.bind onward = some result := by
  obtain ⟨value, here, there⟩ := Option.bind_eq_some_iff.1 run
  exact Option.bind_eq_some_iff.2 ⟨value, same value here, goesOn value there⟩

section Unrevised

variable {site : Site}

/-- A walk that ends is the one in which every file keeps its references. -/
theorem visit_unrevised :
    (∀ file path scope before result, site.visit file path scope before = some result →
      site.visitRevised unrevised file path scope before = some result) ∧
    (∀ file path references before result,
      site.includedRoutes file path references before = some result →
        site.includedRevised unrevised file path references before = some result) := by
  refine Site.visit.mutual_partial_correctness site
    (fun file path scope before result =>
      site.visitRevised unrevised file path scope before = some result)
    (fun file path references before result =>
      site.includedRevised unrevised file path references before = some result) ?_ ?_
  · intro includes includesSame file path scope before result run
    rw [Site.visitRevised]
    cases arrived : (arrive site file scope).run before with
    | mk goal middle =>
        rw [arrived] at run
        cases goal with
        | none => exact run
        | some entered =>
            apply bind_of_steps (fun _ => includesSame _ _ _ _ _) _ run
            exact fun _ done => done
  · intro visits includes visitSame includesSame file path references before result run
    cases references with
    | nil =>
        rw [Site.includedRevised]
        exact run
    | cons reference rest =>
        rw [Site.includedRevised]
        simp only at run
        cases resolved :
            site.modules.resolve site.disk reference.module reference.level file with
        | error error =>
            rw [resolved] at run
            exact includesSame _ _ _ _ _ run
        | ok target =>
            rw [resolved] at run
            apply bind_of_steps (fun _ => visitSame _ _ _ _ _) _ run
            intro _ continued
            apply bind_of_steps (fun _ => includesSame _ _ _ _ _) _ continued
            exact fun _ done => done

/-- And that one, if it ends, is the walk. -/
theorem visitRevised_kept :
    (∀ file path scope before result,
      site.visitRevised unrevised file path scope before = some result →
        site.visit file path scope before = some result) ∧
    (∀ file path references before result,
      site.includedRevised unrevised file path references before = some result →
        site.includedRoutes file path references before = some result) := by
  refine Site.visitRevised.mutual_partial_correctness site unrevised
    (fun file path scope before result => site.visit file path scope before = some result)
    (fun file path references before result =>
      site.includedRoutes file path references before = some result) ?_ ?_
  · intro includes includesSame file path scope before result run
    rw [Site.visit]
    cases arrived : (arrive site file scope).run before with
    | mk goal middle =>
        rw [arrived] at run
        cases goal with
        | none => exact run
        | some entered =>
            apply bind_of_steps (fun _ => includesSame _ _ _ _ _) _ run
            exact fun _ done => done
  · intro visits includes visitSame includesSame file path references before result run
    cases references with
    | nil =>
        rw [Site.includedRoutes]
        exact run
    | cons reference rest =>
        rw [Site.includedRoutes]
        simp only at run
        cases resolved :
            site.modules.resolve site.disk reference.module reference.level file with
        | error error =>
            rw [resolved] at run
            exact includesSame _ _ _ _ _ run
        | ok target =>
            rw [resolved] at run
            apply bind_of_steps (fun _ => visitSame _ _ _ _ _) _ run
            intro _ continued
            apply bind_of_steps (fun _ => includesSame _ _ _ _ _) _ continued
            exact fun _ done => done

theorem visitRevised_unrevised (file : DiskPath) (path : String) (scope : Scope)
    (progress : Progress) :
    site.visitRevised unrevised file path scope progress = site.visit file path scope progress :=
  Option.ext fun result =>
    ⟨visitRevised_kept.1 _ _ _ _ result, visit_unrevised.1 _ _ _ _ result⟩

theorem walkRevised_unrevised : site.walkRevised? unrevised = site.walk? := by
  funext file path progress
  rw [Site.walkRevised?, visitRevised_unrevised, Site.walk?]

end Unrevised

end RouteAtlas.Project
