/-
Module: RouteAtlas.Project.Inventory
Layer: Project
Purpose: The view sets and models of a project, by name. Only classes at the top level of a file
  count, and of several classes of a name the first one does.
Trusted boundary: none
Main exports: Inventory, Inventory.addBody, Inventory.addFile, Inventory.ofProject,
  Inventory.modelOf?
-/
import RouteAtlas.Django.Model
import RouteAtlas.Django.ViewSet
import RouteAtlas.Files.Source
import RouteAtlas.Project.Listing

namespace RouteAtlas.Project

/-- The classes of a project. -/
structure Inventory where
  viewSets : KeyMap Django.ViewSet := []
  models : KeyMap Django.Model := []
deriving Repr, Inhabited

namespace Inventory

/-- Add the class that a statement defines. A view set is never a model. -/
def addStmt (inventory : Inventory) (stmt : Python.Stmt) : Inventory :=
  match stmt.asClass? with
  | none => inventory
  | some decl =>
      match Django.ViewSet.ofClass? decl with
      | some viewSet =>
          { inventory with
            viewSets := KeyMap.insertNew viewSet.name viewSet inventory.viewSets }
      | none =>
          match Django.Model.ofClass? decl with
          | some model =>
              { inventory with models := KeyMap.insertNew model.name model inventory.models }
          | none => inventory

/-- Add the classes of a module. -/
def addBody (inventory : Inventory) (body : Python.Module) : Inventory :=
  body.foldl addStmt inventory

/-- Whether a source text can define a view set or a model. -/
def mayHoldClasses (source : String) : Bool :=
  Text.mentions source "ViewSet" || Text.mentions source "Model"

/-- Add the classes of a file. A file that cannot be read or parsed gives a warning. -/
def addFile (disk : Disk) (inventory : Inventory) (file : DiskPath) :
    Inventory × List Warning :=
  match disk.readText file with
  | .error cause => (inventory, [.skipped file cause])
  | .ok source =>
      if mayHoldClasses source then
        match parseText file source with
        | .ok body => (inventory.addBody body, [])
        | .error error => (inventory, [.source error])
      else (inventory, [])

/-- Add the classes of several files. -/
def addFiles (disk : Disk) (inventory : Inventory) (files : List DiskPath) :
    Inventory × List Warning :=
  files.foldl
    (fun (inventory, warnings) file =>
      let (next, more) := addFile disk inventory file
      (next, warnings ++ more))
    (inventory, [])

/-- The classes of the files below a root. -/
def ofProject (disk : Disk) (root : DiskPath) :
    Except NotDirectory (Inventory × List Warning) :=
  (pythonFiles disk root).map (addFiles disk {})

/-- The model that a view set is about: that of its query, that of its name, or that of its
serializer, whichever is known first. -/
def modelOf? (inventory : Inventory) (viewSet : Django.ViewSet) : Option String :=
  [viewSet.querysetModel, Text.withoutSuffix? "ViewSet" viewSet.name,
    viewSet.serializer.bind (Text.withoutSuffix? "Serializer")].findSome?
      fun candidate => candidate.filter fun name => KeyMap.contains name inventory.models

end Inventory

end RouteAtlas.Project
