/-
Module: RouteAtlas.Python.Import
Layer: Python
Purpose: What the import statements at the top level of a module bind. A table maps each local name
  to the module or to the member of a module that it was bound to last.
Trusted boundary: none
Main exports: Imported, ImportTable, imports
-/
import RouteAtlas.Python.Syntax
import RouteAtlas.Data.KeyMap
import RouteAtlas.Text.Split
import RouteAtlas.Text.Affix

namespace RouteAtlas.Python

/-- What a name was imported from: a module, as many packages up as there were dots, and the member
of it if the statement named one. -/
structure Imported where
  module : String
  level : Nat
  symbol : Option String
deriving DecidableEq, Repr, Inhabited

/-- The dotted path that a local name stands for. A plain `import a.b` binds `a` alone. -/
def Imported.modulePath (imported : Imported) (localName : String) : String :=
  match imported.symbol with
  | some symbol => if imported.module = "" then symbol else imported.module ++ "." ++ symbol
  | none =>
      if Text.hasPrefix (localName ++ ".") imported.module then localName else imported.module

/-- The imported names of a module. -/
abbrev ImportTable := KeyMap Imported

/-- The bindings that one statement makes, in order. A star import binds the name `*`. -/
def Stmt.importBindings : Stmt → List (String × Imported)
  | .imports names =>
      names.map fun binding =>
        (binding.asName.getD (Text.firstPiece '.' binding.name), ⟨binding.name, 0, none⟩)
  | .importsFrom module level names =>
      names.map fun binding =>
        (binding.asName.getD binding.name, ⟨module.getD "", level, some binding.name⟩)
  | _ => []

/-- The imports of a module. Statements inside blocks do not count, and of two bindings of a name
the later one is kept. -/
def imports (body : Module) : ImportTable :=
  KeyMap.ofList (body.flatMap Stmt.importBindings)

end RouteAtlas.Python
