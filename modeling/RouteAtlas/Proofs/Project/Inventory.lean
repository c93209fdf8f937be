/-
Module: RouteAtlas.Proofs.Project.Inventory
Layer: Proofs
Purpose: What an inventory holds. Its two tables are filled by one pass over the top-level classes of
  some modules, each table by the classes that mean something to it, and the first such class of a name
  is the one that counts, however many modules follow.
Trusted boundary: none
Main exports: Inventory.classesOf, Inventory.modelOfClass?, Inventory.First, Inventory.first_iff,
  Inventory.keepFirst, Inventory.values_keepFirst_nil_increasing, Inventory.foldl_addStmt,
  Inventory.foldl_addBody_empty, Inventory.bodies_first
-/
import RouteAtlas.Project.Inventory
import RouteAtlas.Proofs.Django.Definitions

namespace RouteAtlas.Project.Inventory

open Python (ClassDecl)

/-- The classes at the top level of some modules, in order. -/
def classesOf (bodies : List Python.Module) : List ClassDecl :=
  bodies.flatten.filterMap Python.Stmt.asClass?

/-- What a class means as a model. A view set is none, whatever else it looks like. -/
def modelOfClass? (decl : ClassDecl) : Option Django.Model :=
  match Django.ViewSet.ofClass? decl with
  | some _ => none
  | none => Django.Model.ofClass? decl

/-- A model has the name of its class. -/
theorem modelOfClass?_name {decl : ClassDecl} {model : Django.Model}
    (defines : modelOfClass? decl = some model) : model.name = decl.name := by
  rw [modelOfClass?] at defines
  split at defines
  · cases defines
  · obtain ⟨_, named⟩ := Option.ite_none_right_eq_some.1 defines
    rw [← Option.some.inj named]

section First

variable {Meant : Type} (meaning : ClassDecl → Option Meant) (name : String)

/-- The first class of a name that means something means this. Classes of other names, and classes of the
name that mean nothing, may stand before it. -/
def First (decls : List ClassDecl) (meant : Meant) : Prop :=
  ∃ earlier decl later, decls = earlier ++ decl :: later ∧
    decl.name = name ∧ meaning decl = some meant ∧
    ∀ other ∈ earlier, other.name = name → meaning other = none

/-- It is what is said first of the name. -/
theorem first_iff (decls : List ClassDecl) (meant : Meant) :
    First meaning name decls meant ↔
      (Django.saidOf ClassDecl.name meaning name decls).head? = some meant := by
  have silent : ∀ decl : ClassDecl, (if decl.name = name then meaning decl else none) = none ↔
      (decl.name = name → meaning decl = none) := fun decl => by
    by_cases same : decl.name = name <;> simp [same]
  rw [← Django.findSome?_definitions, List.findSome?_eq_some_iff]
  constructor
  · rintro ⟨earlier, decl, later, split, named, means, passed⟩
    refine ⟨earlier, decl, later, split, ?_, fun other member => (silent other).2 (passed other member)⟩
    rw [if_pos named, means]
  · rintro ⟨earlier, decl, later, split, means, passed⟩
    by_cases named : decl.name = name
    · rw [if_pos named] at means
      exact ⟨earlier, decl, later, split, named, means,
        fun other member => (silent other).1 (passed other member)⟩
    · rw [if_neg named] at means
      cases means

/-- Enter what each class means under the name of the class, unless the name is taken. -/
def keepFirst (decls : List ClassDecl) (map : KeyMap Meant) : KeyMap Meant :=
  (decls.filterMap fun decl => (meaning decl).map fun meant => (decl.name, meant)).foldl
    (fun map binding => KeyMap.insertNew binding.1 binding.2 map) map

variable {meaning name}

theorem keepFirst_cons_of_none {decl : ClassDecl} (means : meaning decl = none)
    (rest : List ClassDecl) (map : KeyMap Meant) :
    keepFirst meaning (decl :: rest) map = keepFirst meaning rest map := by
  simp [keepFirst, means]

theorem keepFirst_cons_of_some {decl : ClassDecl} {meant : Meant} (means : meaning decl = some meant)
    (rest : List ClassDecl) (map : KeyMap Meant) :
    keepFirst meaning (decl :: rest) map =
      keepFirst meaning rest (KeyMap.insertNew decl.name meant map) := by
  simp [keepFirst, means]

/-- What is there already stays, and then the first class of a name counts. -/
theorem find?_keepFirst (decls : List ClassDecl) (map : KeyMap Meant) :
    KeyMap.find? name (keepFirst meaning decls map) =
      (KeyMap.find? name map).or (Django.saidOf ClassDecl.name meaning name decls).head? := by
  rw [keepFirst, KeyMap.find?_foldl_insertNew, Django.saidOf_eq_map_filter, List.head?_map]

theorem find?_keepFirst_nil_iff {decls : List ClassDecl} {meant : Meant} :
    KeyMap.find? name (keepFirst meaning decls []) = some meant ↔ First meaning name decls meant := by
  rw [find?_keepFirst, first_iff]
  rfl

theorem find?_keepFirst_of_find? {map : KeyMap Meant} {meant : Meant}
    (found : KeyMap.find? name map = some meant) (decls : List ClassDecl) :
    KeyMap.find? name (keepFirst meaning decls map) = some meant := by
  rw [find?_keepFirst, found, Option.some_or]

theorem mem_keepFirst_nil_iff {decls : List ClassDecl} {meant : Meant} :
    (name, meant) ∈ keepFirst meaning decls [] ↔
      KeyMap.find? name (keepFirst meaning decls []) = some meant :=
  KeyMap.mem_iff_find? (KeyMap.sorted_foldl_insertNew _ .nil)

/-- If what a class means has the name of the class, everything is entered under its own name. -/
theorem name_of_mem_keepFirst_nil {ownName : Meant → String}
    (named : ∀ {decl meant}, meaning decl = some meant → ownName meant = decl.name)
    {decls : List ClassDecl} {meant : Meant} (listed : (name, meant) ∈ keepFirst meaning decls []) :
    ownName meant = name := by
  have first := find?_keepFirst_nil_iff.1 (mem_keepFirst_nil_iff.1 listed)
  obtain ⟨_, decl, _, _, declares, means, _⟩ := first
  rw [named means, declares]

/-- Everything is entered once, in increasing order of its name. -/
theorem values_keepFirst_nil_increasing {ownName : Meant → String}
    (named : ∀ {decl meant}, meaning decl = some meant → ownName meant = decl.name)
    (decls : List ClassDecl) :
    (keepFirst meaning decls []).values.Pairwise fun first second =>
      ownName first < ownName second := by
  have sorted : KeyMap.Sorted (keepFirst meaning decls []) := KeyMap.sorted_foldl_insertNew _ .nil
  rw [KeyMap.values, List.pairwise_map]
  apply sorted.imp_of_mem
  intro first second listedFirst listedSecond increases
  rw [name_of_mem_keepFirst_nil named listedFirst, name_of_mem_keepFirst_nil named listedSecond]
  exact increases

/-- Every name that is entered is that of a class. -/
theorem exists_of_mem_keys_keepFirst_nil {decls : List ClassDecl}
    (entered : name ∈ (keepFirst meaning decls []).keys) : ∃ decl ∈ decls, decl.name = name := by
  obtain ⟨meant, found⟩ := Option.isSome_iff_exists.1 (KeyMap.contains_iff_mem_keys.2 entered)
  obtain ⟨earlier, decl, later, rfl, named, _⟩ := find?_keepFirst_nil_iff.1 found
  exact ⟨decl, List.mem_append_right _ List.mem_cons_self, named⟩

end First

/-- A pass over some statements adds what their classes mean to each table, unless the name is taken. -/
theorem foldl_addStmt (stmts : List Python.Stmt) (inventory : Inventory) :
    stmts.foldl addStmt inventory =
      { viewSets := keepFirst Django.ViewSet.ofClass? (stmts.filterMap Python.Stmt.asClass?)
          inventory.viewSets
        models := keepFirst modelOfClass? (stmts.filterMap Python.Stmt.asClass?)
          inventory.models } := by
  induction stmts generalizing inventory with
  | nil => rfl
  | cons stmt rest ih =>
      rw [List.foldl_cons, ih, addStmt]
      cases declares : stmt.asClass? with
      | none => rw [List.filterMap_cons_none declares]
      | some decl =>
          rw [List.filterMap_cons_some declares]
          cases isViewSet : Django.ViewSet.ofClass? decl with
          | some viewSet =>
              have noModel : modelOfClass? decl = none := by rw [modelOfClass?, isViewSet]
              rw [keepFirst_cons_of_some isViewSet, keepFirst_cons_of_none noModel]
              simp only [isViewSet, Django.ofClass?_name isViewSet]
          | none =>
              have means : modelOfClass? decl = Django.Model.ofClass? decl := by
                rw [modelOfClass?, isViewSet]
              rw [keepFirst_cons_of_none isViewSet]
              cases isModel : Django.Model.ofClass? decl with
              | some model =>
                  rw [keepFirst_cons_of_some (means.trans isModel)]
                  simp only [isViewSet, isModel, modelOfClass?_name (means.trans isModel)]
              | none =>
                  rw [keepFirst_cons_of_none (means.trans isModel)]
                  simp only [isViewSet, isModel]

theorem foldl_addBody (bodies : List Python.Module) (inventory : Inventory) :
    bodies.foldl addBody inventory = bodies.flatten.foldl addStmt inventory := by
  rw [List.foldl_flatten]
  rfl

theorem foldl_addBody_empty (bodies : List Python.Module) :
    bodies.foldl addBody {} =
      { viewSets := keepFirst Django.ViewSet.ofClass? (classesOf bodies) []
        models := keepFirst modelOfClass? (classesOf bodies) [] } :=
  (foldl_addBody bodies {}).trans (foldl_addStmt bodies.flatten {})

/-- What the modules of a project make of an inventory, whatever they are and however often they define
a class of one name. The view set of a name is that of the first top-level class of the name that
defines one, in the order of the modules and of the statements in each; the model of a name is that of
the first such class that defines a model and no view set; there are no others. Every view set and every
model is found under its own name, and none changes when more modules are added. -/
theorem bodies_first (bodies : List Python.Module) :
    let inventory := bodies.foldl addBody {}
    (∀ name viewSet, KeyMap.find? name inventory.viewSets = some viewSet ↔
      First Django.ViewSet.ofClass? name (classesOf bodies) viewSet) ∧
    (∀ name model, KeyMap.find? name inventory.models = some model ↔
      First modelOfClass? name (classesOf bodies) model) ∧
    (∀ name viewSet, (name, viewSet) ∈ inventory.viewSets ↔
      KeyMap.find? name inventory.viewSets = some viewSet) ∧
    (∀ name model, (name, model) ∈ inventory.models ↔
      KeyMap.find? name inventory.models = some model) ∧
    (∀ name viewSet, (name, viewSet) ∈ inventory.viewSets → viewSet.name = name) ∧
    (∀ name model, (name, model) ∈ inventory.models → model.name = name) ∧
    ∀ more : List Python.Module,
      (∀ name viewSet, KeyMap.find? name inventory.viewSets = some viewSet →
        KeyMap.find? name (more.foldl addBody inventory).viewSets = some viewSet) ∧
      ∀ name model, KeyMap.find? name inventory.models = some model →
        KeyMap.find? name (more.foldl addBody inventory).models = some model := by
  intro inventory
  have made : inventory = _ := foldl_addBody_empty bodies
  refine ⟨?_, ?_, ?_, ?_, ?_, ?_, fun more => ?_⟩
  · rw [made]
    exact fun name viewSet => find?_keepFirst_nil_iff
  · rw [made]
    exact fun name model => find?_keepFirst_nil_iff
  · rw [made]
    exact fun name viewSet => mem_keepFirst_nil_iff
  · rw [made]
    exact fun name model => mem_keepFirst_nil_iff
  · rw [made]
    exact fun name viewSet => name_of_mem_keepFirst_nil Django.ofClass?_name
  · rw [made]
    exact fun name model => name_of_mem_keepFirst_nil modelOfClass?_name
  · rw [foldl_addBody, foldl_addStmt]
    exact ⟨fun name viewSet found => find?_keepFirst_of_find? found _,
      fun name model found => find?_keepFirst_of_find? found _⟩

end RouteAtlas.Project.Inventory
