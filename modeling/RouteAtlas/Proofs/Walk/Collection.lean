/-
Module: RouteAtlas.Proofs.Walk.Collection
Layer: Proofs
Purpose: What a walk collects. It ends unless there are ever new parts of files to be asked for, reads
  each part once, meets exactly the parts that references lead to, and yields the routes of each
  part at its first arrival in depth-first order, under the paths of the references along the way.
Trusted boundary: none
Main exports: entries_sublist, walk_ends, walk_collects
-/
import RouteAtlas.Proofs.Walk.Ending
import RouteAtlas.Proofs.Walk.Finite

namespace RouteAtlas.Project

/-- The parts that are entered are new ones, in the same order. -/
theorem Forest.entries_sublist (forest : Forest) :
    (forest.entries.map fun entry => entry.1.part).Sublist (firsts forest.arrivals) := by
  induction forest with
  | done => exact List.Sublist.refl _
  | passed part rest ih =>
      rw [firsts_passed]
      exact ih
  | unread part rest ih =>
      rw [firsts_unread]
      exact ih.cons part
  | entered stop findings below rest ihBelow ih =>
      rw [firsts_entered, entries, List.map_cons, List.map_append]
      exact (ihBelow.append ih).cons_cons stop.part

section Walk

variable {site : Site} {entry : DiskPath}

/-- A walk from an entry file ends if finitely many parts are reached from there. -/
theorem walk_ends (answers : site.Answers)
    (finite : {part | site.Reaches site.Finds entry part}.Finite) (path : String) :
    ∃ result, site.walk? entry path {} = some result := by
  have few : (unmet {part | site.Reaches site.Finds entry part} {}).ncard ≤ _ := le_rfl
  obtain ⟨⟨routes, progress⟩, ends⟩ :=
    visit_ends answers finite (site.closed_reaches entry) few entry path {}
      (fun _ present => .start present)
  exact ⟨(routes.map withParameters, progress), by simp [Site.walk?, ends]⟩

/-- What a walk from an entry file collects, whatever the files are, wherever their references lead
and however they are read, as long as whatever can be parsed has an answer.

It ends if finitely many parts are reached, and so if each file asks for finitely many symbols, which
both frameworks see to. The walk then has gone through a forest that the entry file unfolds to, in
which parts are taken for new ones exactly where they are met first. They are read at most once. The
parts that were visited are those that are reached through what was found in the forest, which are
those reached in the project itself if references do not hang on the path that was asked for. The
routes are those of the forest. -/
theorem walk_collects (answers : site.Answers) (entry : DiskPath) (path : String) :
    ({part | site.Reaches site.Finds entry part}.Finite →
      ∃ result, site.walk? entry path {} = some result) ∧
    ((∀ body, (asked site.read body).Finite) →
      {part | site.Reaches site.Finds entry part}.Finite) ∧
    (∀ framework : Framework, site.read = framework.findings →
      (∀ body, (asked site.read body).Finite) ∧ site.Steady) ∧
    ∀ routes progress, site.walk? entry path {} = some (routes, progress) →
      (site.walk entry path).run {} = (routes, progress) ∧
      ∃ forest : Forest, Unfolds site [⟨entry, path, {}⟩] forest ∧
        FirstMarked forest.arrivals ∧
        (forest.entries.map fun entered => entered.1.part).Nodup ∧
        progress.visited = (firsts forest.arrivals).reverse ∧
        progress.visited.Nodup ∧
        (∀ part, part ∈ progress.visited ↔ site.Reaches forest.Finds entry part) ∧
        (site.Steady → ∀ part, part ∈ progress.visited ↔ site.Reaches site.Finds entry part) ∧
        routes = (forest.routes site).map withParameters := by
  refine ⟨fun finite => walk_ends answers finite path, fun few => Site.reaches_finite few entry,
    fun framework reads => ⟨fun body => reads ▸ framework.asked_finite body,
      framework.steady reads⟩, fun routes progress ends => ?_⟩
  have runs : (site.walk entry path).run {} = (routes, progress) := by
    change (site.walk? entry path {}).getD ([], {}) = _
    rw [ends, Option.getD_some]
  obtain ⟨⟨collected, left⟩, visits, same⟩ := Option.bind_eq_some_iff.1 ends
  obtain ⟨rfl, rfl⟩ : collected.map withParameters = routes ∧ left = progress := by
    simpa using same
  obtain ⟨forest, explores⟩ := (visit_explores answers).1 _ _ _ _ _ visits
  have visited : left.visited = (firsts forest.arrivals).reverse := by
    rw [explores.visited]
    exact List.append_nil _
  have nodup : (firsts forest.arrivals).Nodup := explores.marked.nodup.1
  have met : ∀ part, part ∈ left.visited ↔ part ∈ firsts forest.arrivals := fun part => by
    rw [visited, List.mem_reverse]
  refine ⟨runs, forest, explores.unfolds, explores.marked.firstMarked,
    nodup.sublist forest.entries_sublist, visited, ?_, fun part => ?_, fun steady part => ?_, ?_⟩
  · rw [visited]
    exact List.nodup_reverse.2 nodup
  · exact (met part).trans (explores.unfolds.reaches_iff explores.marked part)
  · exact (met part).trans (explores.unfolds.reaches_finds_iff steady explores.marked part)
  · exact congrArg (List.map withParameters) explores.collected

/-- A project of one file that registers a blueprint of its own under the name it is imported by. -/
def selfRegistered : Site where
  disk := { tree := .directory [("app.py", .file ("from flask import Flask\nfrom app import pages\n" ++
    "app = Flask(__name__)\napp.register_blueprint(pages)\n").toUTF8)] }
  modules := .ofProject ⟨"/"⟩ ⟨"/app.py"⟩ []
  inventory := {}
  read := Framework.flask.findings

theorem selfRegistered_collects :
    ∃ routes progress, selfRegistered.walk? ⟨"/app.py"⟩ "" {} = some (routes, progress) ∧
      progress.visited.Nodup ∧
      ∀ part, part ∈ progress.visited ↔
        selfRegistered.Reaches selfRegistered.Finds ⟨"/app.py"⟩ part := by
  have answers : selfRegistered.Answers := fun _ scope body _ =>
    Framework.flask_answers scope body
  obtain ⟨ends, reach, read, collects⟩ := walk_collects answers ⟨"/app.py"⟩ ""
  obtain ⟨few, steady⟩ := read .flask rfl
  obtain ⟨⟨routes, progress⟩, result⟩ := ends (reach few)
  obtain ⟨_, forest, _, _, _, _, nodup, _, reached, _⟩ := collects routes progress result
  exact ⟨routes, progress, result, nodup, reached steady⟩

end Walk

end RouteAtlas.Project
