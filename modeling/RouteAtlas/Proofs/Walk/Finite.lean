/-
Module: RouteAtlas.Proofs.Walk.Finite
Layer: Proofs
Purpose: How many parts there are to be reached. A project has finitely many files; if each of them
  asks for finitely many symbols, as it does in both frameworks, then finitely many parts are reached.
Trusted boundary: none
Main exports: asked, Site.reaches_finite, Framework.asked_finite, Framework.steady
-/
import Mathlib.Data.Finite.Prod
import RouteAtlas.Proofs.Files.Extent
import RouteAtlas.Proofs.Walk.Reach

namespace RouteAtlas.Project

/-- The symbols that the references of a file ask for, in all scopes in which it may be read. -/
def asked (read : Scope → Python.Module → Except Django.CyclicPatterns Findings)
    (body : Python.Module) : Set (Option String) :=
  {symbol | ∃ scope findings, read scope body = .ok findings ∧
    symbol ∈ findings.includes.map Include.symbol}

/-- A part that is reached is the entry file, or an existing file with a symbol that some file of the
project asks for. -/
theorem Site.Reaches.within {site : Site} {entry : DiskPath} {part : Part}
    (reached : site.Reaches site.Finds entry part) :
    (∃ file, site.disk.canonical file = .ok part.1) ∧
      (part.2 = none ∨ ∃ file body, site.disk.parseFile file = .ok body ∧
        part.2 ∈ asked site.read body) := by
  cases reached with
  | start present => exact ⟨⟨_, present⟩, .inl rfl⟩
  | follow _ there listed _ present =>
      obtain ⟨urlPath, body, parsed, answered⟩ := there
      refine ⟨⟨_, present⟩, .inr ⟨_, body, parsed, _, _, answered, ?_⟩⟩
      exact List.mem_map_of_mem listed

theorem Site.reaches_finite {site : Site}
    (few : ∀ body, (asked site.read body).Finite) (entry : DiskPath) :
    {part | site.Reaches site.Finds entry part}.Finite := by
  have symbols : ({none} ∪ ⋃ body ∈ {body | ∃ file, site.disk.parseFile file = .ok body},
      asked site.read body).Finite :=
    (Set.finite_singleton none).union
      (site.disk.parseFile_finite.biUnion fun body _ => few body)
  refine (site.disk.canonical_finite.prod symbols).subset fun part reached => ?_
  obtain ⟨present, start | ⟨file, body, parsed, listed⟩⟩ := reached.within
  · exact ⟨present, .inl start⟩
  · exact ⟨present, .inr (Set.mem_biUnion ⟨file, parsed⟩ listed)⟩

end RouteAtlas.Project

namespace RouteAtlas

open Project (asked)

/-- The references of an application file are listed in the file, or it has none in the scope. -/
theorem Flask.findings_includes (scope : Scope) (body : Python.Module) :
    (Flask.findings scope body).includes = [] ∨
      (Flask.findings scope body).includes = (Flask.findings {} body).includes := by
  simp only [Flask.findings, Flask.Application.findings]
  split
  · exact .inl rfl
  · exact .inr rfl

namespace Framework

/-- A file asks for no more symbols than it has references. -/
theorem asked_finite (framework : Framework) (body : Python.Module) :
    (asked framework.findings body).Finite := by
  cases framework with
  | django =>
      cases answered : Django.findings body with
      | error cycle =>
          refine Set.finite_empty.subset ?_
          rintro symbol ⟨scope, findings, other, _⟩
          rw [Framework.findings, answered] at other
          cases other
      | ok findings =>
          refine (List.finite_toSet (findings.includes.map Include.symbol)).subset ?_
          rintro symbol ⟨scope, more, other, listed⟩
          rw [Framework.findings, answered] at other
          obtain rfl := Except.ok.inj other
          exact listed
  | flask =>
      refine (List.finite_toSet
        ((Flask.findings {} body).includes.map Include.symbol)).subset ?_
      rintro symbol ⟨scope, findings, answered, listed⟩
      obtain rfl := Except.ok.inj answered
      rcases Flask.findings_includes scope body with none_eq | all_eq
      · rw [none_eq] at listed
        cases listed
      · rw [all_eq] at listed
        exact listed

/-- Only the symbol of a scope bears on what a file refers to. -/
theorem steady (framework : Framework) {site : Project.Site}
    (reads : site.read = framework.findings) : site.Steady := by
  intro symbol urlPath other body findings more answered answeredMore
  rw [reads] at answered answeredMore
  cases framework with
  | django =>
      obtain rfl := Except.ok.inj (answered.symm.trans answeredMore)
      rfl
  | flask =>
      obtain rfl := Except.ok.inj answered
      obtain rfl := Except.ok.inj answeredMore
      simp only [Flask.findings, Flask.Application.findings]
      split
      · rfl
      · rfl

/-- In a scope of a file that is read in terms of `flask` there always is an answer. -/
theorem flask_answers (scope : Scope) (body : Python.Module) :
    ∃ findings, flask.findings scope body = .ok findings :=
  ⟨_, rfl⟩

end Framework

end RouteAtlas
