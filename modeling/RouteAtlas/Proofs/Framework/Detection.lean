/-
Module: RouteAtlas.Proofs.Framework.Detection
Layer: Proofs
Purpose: Which frameworks are detected. A framework shows in a file by a name whose last binding imports
  from one of its packages. A statement that imports from such a package is overlooked if all the names
  it binds are bound again later, so that detection finds what files import exactly if not all of these
  statements are. The order of the files has no influence.
Trusted boundary: none
Main exports: Framework.packages, Framework.Uses, Framework.Shows, Framework.mem_ofImports_iff,
  Framework.mem_detect_iff, Framework.detect_congr, Framework.single?_detect_eq_some_iff,
  Framework.detect_agrees_iff
-/
import RouteAtlas.Framework
import RouteAtlas.Proofs.Python.Imports

namespace RouteAtlas

namespace Framework

open Python (Module lastBound?)

/-- The packages of a framework. -/
def packages : Framework → List String
  | django => ["django", "rest_framework"]
  | flask => ["flask"]

theorem ofModule?_eq_some_iff (module : String) (framework : Framework) :
    ofModule? module = some framework ↔ Text.firstPiece '.' module ∈ framework.packages := by
  rw [ofModule?]
  generalize Text.firstPiece '.' module = top
  split
  · cases framework <;> decide
  · cases framework <;> decide
  · cases framework <;> decide
  · next notDjango notRest notFlask =>
      cases framework with
      | django => simpa [packages] using ⟨notDjango, notRest⟩
      | flask => simpa [packages] using notFlask

theorem ofModule?_eq_none_of_empty : ofModule? "" = none := by decide

/-- A file has an import statement, outside of blocks, for something in a package of the framework. -/
def Uses (framework : Framework) (body : Module) : Prop :=
  ∃ stmt ∈ body, ∃ module, stmt.Imports module ∧ Text.firstPiece '.' module ∈ framework.packages

/-- A file has such an import for a name that it does not import again later. -/
def Shows (framework : Framework) (body : Module) : Prop :=
  ∃ name bound, lastBound? name body = some bound ∧ bound.imported.level = 0 ∧
    Text.firstPiece '.' bound.imported.module ∈ framework.packages

theorem Shows.uses {framework : Framework} {body : Module} (shows : framework.Shows body) :
    framework.Uses body := by
  obtain ⟨name, bound, last, absolute, inPackage⟩ := shows
  have member : bound ∈ body.flatMap Python.Stmt.bound :=
    (List.mem_filter.1 (List.mem_of_getLast? last)).1
  obtain ⟨stmt, stated, binds⟩ := List.mem_flatMap.1 member
  have named : bound.imported.module ≠ "" := by
    intro empty
    rw [← ofModule?_eq_some_iff, empty, ofModule?_eq_none_of_empty] at inPackage
    cases inPackage
  exact ⟨stmt, stated, _, (Python.Stmt.imports_iff named).2 ⟨bound, binds, absolute, rfl⟩, inPackage⟩

/-- The imports of a file belong to the frameworks that show in it. -/
theorem mem_ofImports_iff (framework : Framework) (body : Module) :
    framework ∈ ofImports body ↔ framework.Shows body := by
  have recorded : ∀ imported, imported ∈ KeyMap.values (Python.imports body) ↔
      ∃ name bound, lastBound? name body = some bound ∧ bound.imported = imported := by
    intro imported
    rw [KeyMap.values, List.mem_map]
    constructor
    · rintro ⟨⟨name, _⟩, listed, rfl⟩
      have found := (KeyMap.mem_iff_find? (KeyMap.sorted_ofList _)).1 listed
      rw [← Python.imports, Python.find?_imports] at found
      obtain ⟨bound, last, entry⟩ := Option.map_eq_some_iff.1 found
      exact ⟨name, bound, last, entry⟩
    · rintro ⟨name, bound, last, rfl⟩
      refine ⟨(name, bound.imported), ?_, rfl⟩
      rw [Python.imports, KeyMap.mem_iff_find? (KeyMap.sorted_ofList _), ← Python.imports,
        Python.find?_imports, last]
      rfl
  rw [ofImports, List.mem_filterMap]
  constructor
  · rintro ⟨imported, kept, belongs⟩
    obtain ⟨listed, absolute⟩ := List.mem_filter.1 kept
    obtain ⟨name, bound, last, rfl⟩ := (recorded imported).1 listed
    exact ⟨name, bound, last, eq_of_beq absolute, (ofModule?_eq_some_iff _ _).1 belongs⟩
  · rintro ⟨name, bound, last, absolute, inPackage⟩
    exact ⟨bound.imported,
      List.mem_filter.2 ⟨(recorded _).2 ⟨name, bound, last, rfl⟩, beq_iff_eq.2 absolute⟩,
      (ofModule?_eq_some_iff _ _).2 inPackage⟩

theorem mem_detect_iff (framework : Framework) (files : List Module) :
    framework ∈ detect files ↔ ∃ body ∈ files, framework.Shows body := by
  have listed : framework ∈ all := by cases framework <;> decide
  rw [detect, List.mem_filter, List.contains_iff_mem, List.mem_flatMap, and_iff_right listed]
  exact exists_congr fun body => and_congr_right fun _ => mem_ofImports_iff framework body

/-- What is detected depends on nothing but which frameworks show somewhere. -/
theorem detect_congr {files others : List Module}
    (same : ∀ framework : Framework,
      (∃ body ∈ files, framework.Shows body) ↔ ∃ body ∈ others, framework.Shows body) :
    detect files = detect others := by
  refine List.filter_congr fun framework listed => ?_
  rw [Bool.eq_iff_iff, List.contains_iff_mem, List.contains_iff_mem, List.mem_flatMap,
    List.mem_flatMap]
  simpa only [mem_ofImports_iff] using same framework

theorem forall_iff {property : Framework → Prop} :
    (∀ framework, property framework) ↔ property django ∧ property flask := by
  refine ⟨fun holds => ⟨holds django, holds flask⟩, fun holds framework => ?_⟩
  cases framework with
  | django => exact holds.1
  | flask => exact holds.2

theorem single?_filter_all (kept : Framework → Bool) (framework : Framework) :
    single? (all.filter kept) = some framework ↔
      ∀ other, kept other = true ↔ other = framework := by
  rw [forall_iff]
  cases framework <;> cases keepsDjango : kept django <;> cases keepsFlask : kept flask <;>
    simp [all, single?, keepsDjango, keepsFlask]

/-- The framework of some files is the only one that shows in them. -/
theorem single?_detect_eq_some_iff (files : List Module) (framework : Framework) :
    single? (detect files) = some framework ↔
      ∀ other : Framework, (∃ body ∈ files, other.Shows body) ↔ other = framework := by
  rw [detect, single?_filter_all]
  refine forall_congr' fun other => ?_
  rw [List.contains_iff_mem, List.mem_flatMap]
  simp only [mem_ofImports_iff]

/-- Which frameworks are detected in some files, whatever these import. A framework is detected exactly if
it shows in some file: by a name whose last import is from a package of the framework. The order of the
files does not matter. So what is detected are the frameworks that files import from, exactly if any
framework that some file imports from shows in some file, by an import whose name is not imported again
in the same file. -/
theorem detect_agrees_iff (files : List Module) (framework : Framework) :
    (framework ∈ detect files ↔ ∃ body ∈ files, framework.Shows body) ∧
      (∀ reordered : List Module, reordered.Perm files → detect reordered = detect files) ∧
      ((framework ∈ detect files ↔ ∃ body ∈ files, framework.Uses body) ↔
        ((∃ body ∈ files, framework.Uses body) → ∃ body ∈ files, framework.Shows body)) := by
  refine ⟨mem_detect_iff framework files, fun reordered perm => ?_, ?_⟩
  · refine detect_congr fun other => ?_
    exact exists_congr fun body => and_congr_left fun _ => perm.mem_iff
  · rw [mem_detect_iff]
    refine ⟨fun agrees => agrees.2, fun shown => ⟨fun shows => ?_, shown⟩⟩
    obtain ⟨body, member, shows⟩ := shows
    exact ⟨body, member, shows.uses⟩

/-- A file that imports two things under one name. -/
def pathTwice : Module :=
  [.importsFrom (some "django.urls") 0 [⟨"path", none⟩],
    .importsFrom (some "os") 0 [⟨"path", none⟩]]

/-- It imports from Django, which is not detected. -/
theorem pathTwice_overlooked : django.Uses pathTwice ∧ detect [pathTwice] = [] :=
  ⟨⟨_, List.mem_cons_self, "django.urls", .members List.mem_cons_self, by decide⟩, by decide⟩

end Framework

end RouteAtlas
