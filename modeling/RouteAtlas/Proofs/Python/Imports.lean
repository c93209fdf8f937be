/-
Module: RouteAtlas.Proofs.Python.Imports
Layer: Proofs
Purpose: What names stand for after the import statements of a module. Each binding has one of three
  forms, and Python says for each what the name refers to. The table of imports keeps the last binding of
  a name, but not its form: the reference that is read off it is the one that Python makes, unless a
  module was given the name of the package it is in.
Trusted boundary: none
Main exports: Reference, Bound, Stmt.bound, lastBound?, Stmt.Imports, Stmt.imports_iff, find?_imports,
  modulePath_renamed, imports_reference_iff
-/
import RouteAtlas.Python.Import
import RouteAtlas.Proofs.Data.Bindings

namespace RouteAtlas.Python

/-- What a name refers to: a dotted path, searched for as many packages up as the level says. -/
structure Reference where
  level : Nat
  path : String
deriving DecidableEq, Repr

/-- A name that an import statement binds, by the form of the binding: `import module` binds the top
package of the module, `import module as name` the module itself, and a `from` import a member of the
module, under its own name or another one. A star import counts as one of the member `*`, which no name
of a program is. -/
inductive Bound where
  | package (module : String)
  | renamed (module name : String)
  | member (level : Nat) (module symbol name : String)
deriving DecidableEq, Repr

namespace Bound

/-- The name that is bound. -/
def name : Bound → String
  | package module => Text.firstPiece '.' module
  | renamed _ name => name
  | member _ _ _ name => name

/-- What Python makes the name refer to. -/
def reference : Bound → Reference
  | package module => ⟨0, Text.firstPiece '.' module⟩
  | renamed module _ => ⟨0, module⟩
  | member level module symbol _ => ⟨level, if module = "" then symbol else module ++ "." ++ symbol⟩

/-- What the table of imports keeps of a binding. -/
def imported : Bound → Imported
  | package module => ⟨module, 0, none⟩
  | renamed module _ => ⟨module, 0, none⟩
  | member level module symbol _ => ⟨module, level, some symbol⟩

end Bound

/-- What a statement binds by importing it, in order. -/
def Stmt.bound : Stmt → List Bound
  | .imports names =>
      names.map fun binding =>
        match binding.asName with
        | some name => .renamed binding.name name
        | none => .package binding.name
  | .importsFrom module level names =>
      names.map fun binding =>
        .member level (module.getD "") binding.name (binding.asName.getD binding.name)
  | _ => []

/-- The last binding of a name among the import statements of a module. -/
def lastBound? (name : String) (body : Module) : Option Bound :=
  ((body.flatMap Stmt.bound).filter fun bound => bound.name = name).getLast?

theorem lastBound?_name {name : String} {body : Module} {bound : Bound}
    (last : lastBound? name body = some bound) : bound.name = name :=
  of_decide_eq_true (List.mem_filter.1 (List.mem_of_getLast? last)).2

theorem isSome_lastBound?_iff (name : String) (body : Module) :
    (lastBound? name body).isSome = true ↔ ∃ stmt ∈ body, ∃ bound ∈ stmt.bound, bound.name = name := by
  rw [lastBound?, List.getLast?_isSome]
  constructor
  · intro some
    obtain ⟨bound, member⟩ := List.exists_mem_of_ne_nil _ some
    obtain ⟨there, named⟩ := List.mem_filter.1 member
    obtain ⟨stmt, stated, binds⟩ := List.mem_flatMap.1 there
    exact ⟨stmt, stated, bound, binds, of_decide_eq_true named⟩
  · rintro ⟨stmt, stated, bound, binds, named⟩
    exact List.ne_nil_of_mem
      (List.mem_filter.2 ⟨List.mem_flatMap.2 ⟨stmt, stated, binds⟩, decide_eq_true named⟩)

/-- The bindings that a statement enters in the table are those it makes. -/
theorem importBindings_eq (stmt : Stmt) :
    stmt.importBindings = stmt.bound.map fun bound => (bound.name, bound.imported) := by
  cases stmt with
  | imports names =>
      rw [Stmt.importBindings, Stmt.bound, List.map_map]
      refine List.map_congr_left fun binding _ => ?_
      obtain ⟨module, asName⟩ := binding
      cases asName with
      | none => rfl
      | some name => rfl
  | importsFrom module level names =>
      rw [Stmt.importBindings, Stmt.bound, List.map_map]
      rfl
  | _ => rfl

/-- A statement imports a module, or members of it, by its absolute name. -/
inductive Stmt.Imports : Stmt → String → Prop where
  | whole {names : List Alias} {binding : Alias} (listed : binding ∈ names) :
      Imports (.imports names) binding.name
  | members {module : String} {names : List Alias} {binding : Alias} (listed : binding ∈ names) :
      Imports (.importsFrom (some module) 0 names) module

/-- What a statement imports is what it binds names to. A `from` import without a module binds members
of the package that the file is in, and has no module to name. -/
theorem Stmt.imports_iff {stmt : Stmt} {module : String} (named : module ≠ "") :
    stmt.Imports module ↔
      ∃ bound ∈ stmt.bound, bound.imported.level = 0 ∧ bound.imported.module = module := by
  constructor
  · rintro (⟨listed⟩ | ⟨listed⟩)
    · next names binding =>
        refine ⟨_, List.mem_map_of_mem listed, ?_⟩
        cases binding.asName with
        | none => exact ⟨rfl, rfl⟩
        | some name => exact ⟨rfl, rfl⟩
    · exact ⟨_, List.mem_map_of_mem listed, rfl, rfl⟩
  · rintro ⟨bound, binds, absolute, rfl⟩
    cases stmt with
    | imports names =>
        obtain ⟨binding, listed, rfl⟩ := List.mem_map.1 binds
        have whole : Stmt.Imports (.imports names) binding.name := .whole listed
        cases binding.asName with
        | none => exact whole
        | some name => exact whole
    | importsFrom source level names =>
        obtain ⟨binding, listed, rfl⟩ := List.mem_map.1 binds
        obtain rfl : level = 0 := absolute
        cases source with
        | none => exact absurd rfl named
        | some source => exact .members listed
    | _ => cases binds

/-- The table keeps the last binding of each name. -/
theorem find?_imports (name : String) (body : Module) :
    KeyMap.find? name (imports body) = (lastBound? name body).map Bound.imported := by
  have entered : body.flatMap Stmt.importBindings =
      (body.flatMap Stmt.bound).map fun bound => (bound.name, bound.imported) := by
    rw [List.map_flatMap, ← funext importBindings_eq]
  rw [imports, KeyMap.find?_ofList, entered, List.filter_map, List.getLast?_map, Option.map_map]
  rfl

/-- The reference that is read off an entry of the table. -/
def Imported.reference (localName : String) (imported : Imported) : Reference :=
  ⟨imported.level, imported.modulePath localName⟩

theorem modulePath_package (module : String) :
    (Bound.package module).imported.modulePath (Text.firstPiece '.' module) =
      Text.firstPiece '.' module := by
  change (if Text.hasPrefix (Text.firstPiece '.' module ++ ".") module then _ else module) = _
  rcases Text.firstPiece_cases '.' module with whole | ⟨rest, split⟩
  · split
    · rfl
    · exact whole
  · have below : Text.hasPrefix (Text.firstPiece '.' module ++ ".") module = true :=
      (Text.hasPrefix_iff _ _).2 ⟨rest, split.trans String.append_assoc.symm⟩
    exact if_pos below

/-- A module with a name of its own is found, unless its name is that of a package it is in: then the
package is found in its place. -/
theorem modulePath_renamed (module name : String) :
    (Bound.renamed module name).imported.modulePath name =
      if Text.hasPrefix (name ++ ".") module then name else module := rfl

/-- A package is not a module in it. -/
theorem ne_below (name rest : String) : name ≠ name ++ "." ++ rest := by
  intro same
  have lengths : name.length = name.length + 1 + rest.length := by
    conv => lhs; rw [same, String.length_append, String.length_append]
    rfl
  omega

/-- The entry of one binding refers to what Python makes the name refer to, unless the binding gives a
module the name of a package it is in. -/
theorem reference_imported_iff (bound : Bound) :
    bound.imported.reference bound.name = bound.reference ↔
      ∀ rest, bound ≠ .renamed (bound.name ++ "." ++ rest) bound.name := by
  cases bound with
  | package module =>
      have agrees : (Bound.package module).imported.reference (Text.firstPiece '.' module) =
          (Bound.package module).reference := by
        rw [Imported.reference, modulePath_package]
        rfl
      exact iff_of_true agrees fun rest same => nomatch same
  | member level module symbol name =>
      exact iff_of_true rfl fun rest same => nomatch same
  | renamed module name =>
      change Reference.mk 0 ((Bound.renamed module name).imported.modulePath name) = ⟨0, module⟩ ↔ _
      rw [modulePath_renamed, Reference.mk.injEq, and_iff_right rfl]
      constructor
      · intro found rest same
        obtain ⟨below, -⟩ := Bound.renamed.inj same
        have inside : Text.hasPrefix (name ++ ".") module = true :=
          (Text.hasPrefix_iff _ _).2 ⟨rest, below⟩
        rw [if_pos inside] at found
        exact ne_below name rest (found.trans below)
      · intro apart
        refine if_neg fun inside => ?_
        obtain ⟨rest, below⟩ := (Text.hasPrefix_iff _ _).1 inside
        exact apart rest (congrArg (Bound.renamed · name) below)

/-- What the table of imports says a name refers to, for all sequences of import statements and all
names. It says something exactly of the names that are bound. It says what Python makes of the last
statement that binds the name, at the level of that statement, exactly if this is no
`import name.rest as name`; in that case it says that the name is the package instead. -/
theorem imports_reference_iff (body : Module) (name : String) :
    let recorded := (KeyMap.find? name (imports body)).map (Imported.reference name)
    let meant := (lastBound? name body).map Bound.reference
    (recorded.isSome = true ↔ ∃ stmt ∈ body, ∃ bound ∈ stmt.bound, bound.name = name) ∧
      (recorded = meant ↔
        ∀ rest, lastBound? name body ≠ some (.renamed (name ++ "." ++ rest) name)) ∧
      ∀ rest, lastBound? name body = some (.renamed (name ++ "." ++ rest) name) →
        recorded = some ⟨0, name⟩ := by
  intro recorded meant
  have found : recorded =
      ((lastBound? name body).map Bound.imported).map (Imported.reference name) := by
    rw [← find?_imports]
  refine ⟨?_, ?_, fun rest renamed => ?_⟩
  · rw [found, Option.isSome_map, Option.isSome_map, isSome_lastBound?_iff]
  · rw [found]
    change _ = (lastBound? name body).map Bound.reference ↔ _
    cases last : lastBound? name body with
    | none => exact iff_of_true rfl fun rest same => nomatch same
    | some bound =>
        obtain rfl := lastBound?_name last
        simpa using reference_imported_iff bound
  · have inside : Text.hasPrefix (name ++ ".") (name ++ "." ++ rest) = true :=
      (Text.hasPrefix_iff _ _).2 ⟨rest, rfl⟩
    rw [found, renamed]
    change some (Reference.mk 0 _) = _
    rw [modulePath_renamed, if_pos inside]

/-- A file that calls a module by the name of its package. -/
def renamedUrls : Module := [.imports [⟨"blog.urls", some "blog"⟩]]

/-- The name is taken for the package, but Python makes it refer to the module. -/
theorem renamedUrls_differs :
    (KeyMap.find? "blog" (imports renamedUrls)).map (Imported.reference "blog") =
        some ⟨0, "blog"⟩ ∧
      (lastBound? "blog" renamedUrls).map Bound.reference = some ⟨0, "blog.urls"⟩ := by
  decide

end RouteAtlas.Python
