/-
Module: RouteAtlas.Django.Pattern
Layer: Django
Purpose: Lists of URL patterns. A list is an expression over displays, sums and names of other local
  lists, and a pattern may include a local list under its path. `entriesOf` expands all of that into
  the single entries in order. Local lists may refer to each other; a list that contains itself has
  no expansion, and is an error.
Trusted boundary: none
Main exports: Entry, ListTable, CyclicPatterns, Expansion, entriesWith, expandList, entriesOf
-/
import RouteAtlas.Route
import RouteAtlas.Python.Literal

namespace RouteAtlas.Django

/-- A single entry of a pattern list: a route to a view, the URLs of a router or of a module that a
local name stands for, or the patterns of another file. Paths are complete from the start of the
file. -/
inductive Entry where
  | route (path raw : String) (call : Python.Call)
  | urlsOf (owner path : String)
  | included (reference : Include)
deriving Repr, Inhabited

/-- The local lists that have been assigned so far. -/
abbrev ListTable := KeyMap Python.Expr

/-- A local list contains itself. -/
structure CyclicPatterns where
  name : String
deriving DecidableEq, Repr, Inhabited

/-- What a user is told. -/
def CyclicPatterns.message (cycle : CyclicPatterns) : String :=
  "the pattern list '" ++ cycle.name ++ "' contains itself"

/-- The entries of a pattern list. -/
abbrev Expansion := Except CyclicPatterns (List Entry)

/-- What names stand for in the file: its imports and its local lists, and how a local list is
expanded under a path. -/
structure Surroundings where
  imports : Python.ImportTable
  lists : ListTable
  expand : String → String → Expansion

/-- The argument of `include(...)`, under a path. -/
def includeEntries (names : Surroundings) (path : String) : Python.Expr → Expansion
  | .tuple items =>
      match items.head?.bind Python.Expr.text? with
      | some module => .ok [.included { module := module, path := path }]
      | none => .ok []
  | .attribute (.name owner) attr => .ok (if attr = "urls" then [.urlsOf owner path] else [])
  | .name id =>
      if KeyMap.contains id names.lists then names.expand id path
      else
        match KeyMap.find? id names.imports with
        | some imported =>
            .ok [.included
              { module := imported.modulePath id, level := imported.level, path := path }]
        | none => .ok []
  | other =>
      match other.text? with
      | some module => .ok [.included { module := module, path := path }]
      | none => .ok []

/-- A call among the patterns, under a path. Only calls of the route functions count, and their
path must be a literal. -/
def callEntries (names : Surroundings) (path : String) (call : Python.Call) : Expansion :=
  if call.func.simpleName?.any ["path", "re_path", "url"].contains then
    match call.args.head?.bind Python.Expr.text? with
    | none => .ok []
    | some raw =>
        let view := (call.argOrKeyword? 1 "view").bind Python.Expr.asCall?
        match view.filter fun inner => inner.func.simpleName? = some "include" with
        | some inner =>
            match inner.args.head? with
            | some target => includeEntries names (path ++ raw) target
            | none => .ok []
        | none => .ok [.route (path ++ raw) raw call]
  else .ok []

mutual

/-- The entries of a pattern list under a path. Dynamic expressions contribute nothing. -/
def entriesWith (names : Surroundings) (path : String) : Python.Expr → Expansion
  | .list items => entriesOfItems names path items
  | .tuple items => entriesOfItems names path items
  | .binary .add left right => do
      let first ← entriesWith names path left
      let second ← entriesWith names path right
      return first ++ second
  | .attribute (.name owner) attr => .ok (if attr = "urls" then [.urlsOf owner path] else [])
  | .name id => if KeyMap.contains id names.lists then names.expand id path else .ok []
  | .call func args keywords => callEntries names path ⟨func, args, keywords⟩
  | _ => .ok []

/-- The entries of several lists, one after the other. -/
def entriesOfItems (names : Surroundings) (path : String) : List Python.Expr → Expansion
  | [] => .ok []
  | item :: rest => do
      let first ← entriesWith names path item
      let others ← entriesOfItems names path rest
      return first ++ others

end

/-- The entries of a local list under a path, if lists are nested at most `depth` deep. -/
def expandList (imports : Python.ImportTable) (lists : ListTable) :
    (depth : Nat) → (name path : String) → Expansion
  | 0, name, _ => .error ⟨name⟩
  | depth + 1, name, path =>
      match KeyMap.find? name lists with
      | none => .ok []
      | some list => entriesWith ⟨imports, lists, expandList imports lists depth⟩ path list

/-- The entries of a pattern list. Lists that are nested deeper than there are lists contain one of
them twice, so that the bound is only met by a list that contains itself. -/
def entriesOf (imports : Python.ImportTable) (lists : ListTable) (patterns : Python.Expr) :
    Expansion :=
  entriesWith ⟨imports, lists, expandList imports lists lists.length⟩ "" patterns

end RouteAtlas.Django
