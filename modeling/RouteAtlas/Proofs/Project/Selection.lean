/-
Module: RouteAtlas.Proofs.Project.Selection
Layer: Proofs
Purpose: Which files an inventory looks at. A file is parsed only if its text mentions `ViewSet` or
  `Model`. A class means something to an inventory only by the name of one of its bases, which stands in
  the text of the file; so whatever is left out defines nothing, and the inventory of some files is that
  of all of them.
Trusted boundary: none
Main exports: BasesStandIn, addBody_left_out, addFile_parsed, addFiles_selects_all
-/
import RouteAtlas.Project.Inventory
import RouteAtlas.Proofs.Project.Detection

namespace RouteAtlas.Project.Inventory

open Python (ClassDecl)

theorem mentions_trans {text middle part : String} (outer : Text.mentions text middle = true)
    (inner : Text.mentions middle part = true) : Text.mentions text part = true := by
  rw [Text.mentions_iff] at outer inner ⊢
  exact inner.trans outer

/-- The names of the bases of all top-level classes stand in a text: where a base is a name, this name,
and where it is an attribute of anything, the name of the attribute. -/
def BasesStandIn (source : String) (body : Python.Module) : Prop :=
  ∀ stmt ∈ body, ∀ decl ∈ stmt.asClass?, ∀ base ∈ decl.bases, ∀ id ∈ base.simpleName?,
    Text.mentions source id = true

section Meaning

variable {decl : ClassDecl}

/-- A class is a view set only by a base whose name mentions one. -/
theorem base_of_viewSet {viewSet : Django.ViewSet} (defines : Django.ViewSet.ofClass? decl = some viewSet) :
    ∃ base ∈ decl.bases, ∃ id ∈ base.simpleName?, Text.mentions id "ViewSet" = true := by
  obtain ⟨based, _⟩ := Option.ite_none_right_eq_some.1 defines
  obtain ⟨id, member, mentioned⟩ := List.any_eq_true.1 based
  obtain ⟨base, derives, named⟩ := List.mem_filterMap.1 member
  exact ⟨base, derives, id, named, mentioned⟩

/-- A class is a model only by a base of this name. -/
theorem base_of_model {model : Django.Model} (defines : Django.Model.ofClass? decl = some model) :
    ∃ base ∈ decl.bases, base.simpleName? = some "Model" := by
  obtain ⟨based, _⟩ := Option.ite_none_right_eq_some.1 defines
  obtain ⟨base, derives, named⟩ := List.any_eq_true.1 based
  exact ⟨base, derives, by simpa using named⟩

/-- If the names of its bases stand in a text that mentions neither word, a class is nothing to an
inventory. -/
theorem means_nothing {source : String} (leftOut : mayHoldClasses source = false)
    (stand : ∀ base ∈ decl.bases, ∀ id ∈ base.simpleName?, Text.mentions source id = true) :
    Django.ViewSet.ofClass? decl = none ∧ Django.Model.ofClass? decl = none := by
  rw [mayHoldClasses, Bool.or_eq_false_iff] at leftOut
  obtain ⟨noViewSet, noModel⟩ := leftOut
  constructor
  · cases defines : Django.ViewSet.ofClass? decl with
    | none => rfl
    | some viewSet =>
        obtain ⟨base, derives, id, named, mentioned⟩ := base_of_viewSet defines
        rw [mentions_trans (stand base derives id named) mentioned] at noViewSet
        cases noViewSet
  · cases defines : Django.Model.ofClass? decl with
    | none => rfl
    | some model =>
        obtain ⟨base, derives, named⟩ := base_of_model defines
        rw [stand base derives "Model" named] at noModel
        cases noModel

end Meaning

/-- A module that belongs to a text without either word adds nothing, statement by statement. -/
theorem addBody_left_out {source : String} {body : Python.Module}
    (stand : BasesStandIn source body) (leftOut : mayHoldClasses source = false)
    (inventory : Inventory) : inventory.addBody body = inventory := by
  rw [addBody]
  induction body with
  | nil => rfl
  | cons stmt rest ih =>
      have idle : inventory.addStmt stmt = inventory := by
        rw [addStmt]
        cases declares : stmt.asClass? with
        | none => rfl
        | some decl =>
            have bases := stand stmt List.mem_cons_self decl declares
            obtain ⟨noViewSet, noModel⟩ := means_nothing leftOut bases
            simp only [noViewSet, noModel]
      rw [List.foldl_cons, idle]
      apply ih
      intro other member
      exact stand other (List.mem_cons_of_mem stmt member)

/-- The names of bases stand in the text that was parsed. -/
theorem parse_basesStandIn {source : String} {body : Python.Module}
    (parses : Python.parse source = .ok body) : BasesStandIn source body := by
  intro stmt stated decl declares base derives id named
  exact Python.parse_writes parses stated declares derives named

section Files

variable {disk : Disk} {file : DiskPath}

/-- A file that can be parsed adds its classes, whether its text is looked at first or not. -/
theorem addFile_parsed {body : Python.Module} (reads : disk.parseFile file = .ok body)
    (inventory : Inventory) : addFile disk inventory file = (inventory.addBody body, []) := by
  obtain ⟨source, text, parses⟩ := parseFile_eq_ok_iff.1 reads
  have tree : parseText file source = .ok body := by rw [parseText, parses]
  simp only [addFile, text]
  split
  · rw [tree]
  · next leftOut =>
      have left := addBody_left_out (parse_basesStandIn parses) (Bool.eq_false_iff.2 leftOut) inventory
      rw [left]

/-- Any other file adds nothing. -/
theorem addFile_unread {error : SourceError} (unread : disk.parseFile file = .error error)
    (inventory : Inventory) : (addFile disk inventory file).1 = inventory := by
  rw [Disk.parseFile] at unread
  rw [addFile]
  cases text : disk.readText file with
  | error cause => rfl
  | ok source =>
      simp only [text] at unread
      simp only [unread]
      split
      · rfl
      · rfl

/-- The inventory of some files takes them in one by one; what is told on the way does not matter. -/
theorem addFiles_inventory (inventory : Inventory) (files : List DiskPath) :
    (addFiles disk inventory files).1 =
      files.foldl (fun inventory file => (addFile disk inventory file).1) inventory :=
  (List.foldl_hom Prod.fst fun _ _ => rfl).symm

end Files

/-- Looking at the texts of files first loses no class. A module adds nothing to any inventory if the
names of the bases of its classes stand in a text that mentions neither `ViewSet` nor `Model`, and in
the text that a module is parsed from they always do. So a file that can be parsed adds what its syntax
tree adds, and the inventory of some files is made of the syntax trees of all those that can be read and
parsed, in order. -/
theorem addFiles_selects_all :
    (∀ source body, BasesStandIn source body → mayHoldClasses source = false →
      ∀ inventory : Inventory, inventory.addBody body = inventory) ∧
    (∀ source body, Python.parse source = .ok body → BasesStandIn source body) ∧
    (∀ disk file body, Disk.parseFile disk file = .ok body →
      ∀ inventory, addFile disk inventory file = (inventory.addBody body, [])) ∧
    ∀ disk files inventory,
      (addFiles disk inventory files).1 = (parsed disk files).foldl addBody inventory := by
  refine ⟨fun _ _ => addBody_left_out, fun _ _ => parse_basesStandIn, fun _ _ _ => addFile_parsed, ?_⟩
  intro disk files inventory
  rw [addFiles_inventory]
  induction files generalizing inventory with
  | nil => rfl
  | cons file rest ih =>
      rw [List.foldl_cons, ih]
      cases reads : disk.parseFile file with
      | error error => rw [addFile_unread reads, parsed_cons_of_error reads]
      | ok body => rw [addFile_parsed reads, parsed_cons_of_ok reads, List.foldl_cons]

end RouteAtlas.Project.Inventory
