/-
Module: RouteAtlas.Proofs.Django.StraightLine
Layer: Proofs
Purpose: URL configurations that are written as a sequence of assignments and extensions of pattern
  lists, without blocks, functions or other calls than those of the routes. A list is built of
  displays of routes, sums and names of lists that were assigned before; a route leads to a view or to
  a list. What every name stands for is a function from the path in front of it to blocks of routes.
Trusted boundary: human-reviewed spec
Main exports: Reference, View, Inclusion, RouteCall, PatternList, Statement, Scoped, Configuration,
  Block, Meaning, PatternList.blocks, Statement.meaning
-/
import Mathlib.Data.List.Basic
import Mathlib.Logic.Function.Basic
import RouteAtlas.Django.UrlConf

namespace RouteAtlas.Django.StraightLine

open Python (Expr)

/-! ### Syntax -/

/-- A name, or an attribute of something that is referred to. -/
inductive Reference where
  | name (id : String)
  | member (owner : Reference) (attr : String)

namespace Reference

/-- The reference as it is written. -/
def expr : Reference → Expr
  | .name id => .name id
  | .member owner attr => .attribute owner.expr attr

/-- The last name of the reference. -/
def last : Reference → String
  | .name id => id
  | .member _ attr => attr

end Reference

/-- Arguments that make no calls. -/
structure QuietArguments where
  args : List Expr
  keywords : List (Option String × Expr)
  quietArgs : Python.callsOf args = []
  quietKeywords : Python.callsOfKeywords keywords = []

/-- A view: a function or class that is referred to, or `as_view(...)` of a class. -/
inductive View where
  | named (reference : Reference)
  | ofClass (cls : Reference) (arguments : QuietArguments)

namespace View

/-- The view as it is written. -/
def expr : View → Expr
  | .named reference => reference.expr
  | .ofClass cls arguments =>
      .call (Reference.member cls "as_view").expr arguments.args arguments.keywords

/-- The name of the function or class. -/
def handler : View → String
  | .named reference => reference.last
  | .ofClass cls _ => cls.last

end View

/-- A list that is included by its name. -/
structure Inclusion where
  callee : Reference
  list : String
  arguments : QuietArguments
  includes : callee.last = "include"

/-- The inclusion as it is written. -/
def Inclusion.expr (inclusion : Inclusion) : Expr :=
  .call inclusion.callee.expr (.name inclusion.list :: inclusion.arguments.args)
    inclusion.arguments.keywords

/-- What a route leads to. -/
inductive Target where
  | view (view : View)
  | list (inclusion : Inclusion)

/-- The target as it is written. -/
def Target.expr : Target → Expr
  | .view target => target.expr
  | .list inclusion => inclusion.expr

/-- The name of the parameter of a route function that takes the path. -/
def pathParameter (function : String) : String := if function = "url" then "regex" else "route"

/-- A call of a route function with a literal path and a target, and no other calls in it. -/
structure RouteCall where
  callee : Reference
  args : List Expr
  keywords : List (Option String × Expr)
  path : String
  target : Target
  routes : callee.last ∈ ["path", "re_path", "url"]
  literal : (Python.Call.mk callee.expr args keywords).argOrKeyword? 0 (pathParameter callee.last) =
    some (.constant (.text path))
  leads : (Python.Call.mk callee.expr args keywords).argOrKeyword? 1 "view" = some target.expr
  quiet : Python.callsOf args ++ Python.callsOfKeywords keywords = target.expr.calls

namespace RouteCall

variable (route : RouteCall)

/-- The call that is made. -/
def call : Python.Call := ⟨route.callee.expr, route.args, route.keywords⟩

/-- The call as it is written. -/
def expr : Expr := .call route.callee.expr route.args route.keywords

/-- The path is the first positional argument. -/
def Positional : Prop := route.args.head? = some (.constant (.text route.path))

/-- The request methods that the route states for its view. -/
def methods : List Method := (statedMethods? route.call (some route.target.expr)).getD [.get]

/-- The list that is included by the route. -/
def included? : Option String :=
  match route.target with
  | .view _ => none
  | .list inclusion => some inclusion.list

end RouteCall

/-- A list of patterns. -/
inductive PatternList where
  | display (routes : List RouteCall)
  | sum (left right : PatternList)
  | name (id : String)

namespace PatternList

/-- The list as it is written. -/
def expr : PatternList → Expr
  | .display routes => .list (routes.map RouteCall.expr)
  | .sum left right => .binary .add left.expr right.expr
  | .name id => .name id

/-- The name that is all of the list. -/
def bare? : PatternList → Option String
  | .name id => some id
  | _ => none

/-- The lists that are named as parts of the list. -/
def named : PatternList → List String
  | .display _ => []
  | .sum left right => left.named ++ right.named
  | .name id => [id]

/-- The routes that are written in the list. -/
def routes : PatternList → List RouteCall
  | .display routes => routes
  | .sum left right => left.routes ++ right.routes
  | .name _ => []

/-- The lists that are included by routes of the list. -/
def included (list : PatternList) : List String := list.routes.filterMap RouteCall.included?

theorem included_sum (left right : PatternList) :
    (sum left right).included = left.included ++ right.included := List.filterMap_append

theorem included_head {route : RouteCall} {rest : List RouteCall} {name : String}
    (leads : route.included? = some name) : name ∈ (display (route :: rest)).included :=
  List.mem_filterMap.2 ⟨route, List.mem_cons_self, leads⟩

theorem included_tail {route : RouteCall} {rest : List RouteCall} {name : String}
    (member : name ∈ (display rest).included) : name ∈ (display (route :: rest)).included := by
  obtain ⟨inner, there, leads⟩ := List.mem_filterMap.1 member
  exact List.mem_filterMap.2 ⟨inner, List.mem_cons_of_mem _ there, leads⟩

/-- All lists that are named or included are local ones that were assigned before. -/
structure Known (bound : List String) (list : PatternList) : Prop where
  named : ∀ name ∈ list.named, name ∈ bound ∧ name ≠ patternsName
  included : ∀ name ∈ list.included, name ∈ bound ∧ name ≠ patternsName

end PatternList

/-- A statement: a list is assigned to a name, or the patterns of the file are extended by a list or by
one route. -/
inductive Statement where
  | assign (name : String) (list : PatternList)
  | add (list : PatternList)
  | extend (list : PatternList)
  | append (route : RouteCall)

namespace Statement

/-- The list that is assigned or added. -/
def list : Statement → PatternList
  | .assign _ list => list
  | .add list => list
  | .extend list => list
  | .append route => .display [route]

/-- The name that is assigned. -/
def assigned? : Statement → Option String
  | .assign name _ => some name
  | _ => none

/-- The statement as it is written. -/
def stmt : Statement → Python.Stmt
  | .assign name list => .assign [.name name] list.expr
  | .add list => .augmented (.name patternsName) list.expr
  | .extend list => .expression (.call (.attribute (.name patternsName) "extend") [list.expr] [])
  | .append route => .expression (.call (.attribute (.name patternsName) "append") [route.expr] [])

/-- A statement after some names were assigned. A name that is assigned is new, and a local one is not
made another name of a list; the patterns of the file are assigned before they are extended. -/
structure Allowed (bound : List String) (statement : Statement) : Prop where
  known : statement.list.Known bound
  fresh : ∀ name, statement.assigned? = some name →
    name ∉ bound ∧ (name ≠ patternsName → statement.list.bare? = none)
  started : statement.assigned? = none → patternsName ∈ bound

end Statement

/-- Statements after some names were assigned, until the patterns of the file are complete. -/
def Scoped : (bound : List String) → List Statement → Prop
  | bound, [] => patternsName ∈ bound
  | bound, statement :: rest =>
      statement.Allowed bound ∧ Scoped (statement.assigned?.toList ++ bound) rest

section Decisions

variable (bound : List String)

instance (list : PatternList) : Decidable (list.Known bound) :=
  decidable_of_iff
    ((∀ name ∈ list.named, name ∈ bound ∧ name ≠ patternsName) ∧
      ∀ name ∈ list.included, name ∈ bound ∧ name ≠ patternsName)
    ⟨fun ⟨named, included⟩ => ⟨named, included⟩, fun known => ⟨known.named, known.included⟩⟩

instance (statement : Statement) : Decidable (statement.Allowed bound) :=
  decidable_of_iff
    (statement.list.Known bound ∧
      (∀ name ∈ statement.assigned?,
        name ∉ bound ∧ (name ≠ patternsName → statement.list.bare? = none)) ∧
      (statement.assigned? = none → patternsName ∈ bound))
    ⟨fun ⟨known, fresh, started⟩ => ⟨known, fresh, started⟩,
      fun allowed => ⟨allowed.known, allowed.fresh, allowed.started⟩⟩

instance decidableScoped : (bound : List String) → (statements : List Statement) →
    Decidable (Scoped bound statements)
  | bound, [] => inferInstanceAs (Decidable (patternsName ∈ bound))
  | bound, statement :: rest =>
      have := decidableScoped (statement.assigned?.toList ++ bound) rest
      inferInstanceAs (Decidable (statement.Allowed bound ∧
        Scoped (statement.assigned?.toList ++ bound) rest))

end Decisions

/-- An import statement. -/
def IsImport : Python.Stmt → Prop
  | .imports _ => True
  | .importsFrom _ _ _ => True
  | _ => False

/-- A URL configuration without branches: imports, then assignments and extensions. -/
structure Configuration where
  header : Python.Module
  statements : List Statement
  imports : ∀ stmt ∈ header, IsImport stmt
  inScope : Scoped [] statements

/-- The configuration as a module. -/
def Configuration.body (conf : Configuration) : Python.Module :=
  conf.header ++ conf.statements.map Statement.stmt

/-! ### Meaning -/

/-- What one pattern stands for: its complete path, its request methods and its view. -/
structure Block where
  path : String
  methods : List Method
  handler : String
deriving DecidableEq, Repr

/-- Path, method and handler of the routes of a block, one for each method. -/
def Block.rows (block : Block) : List (String × Method × Option String) :=
  block.methods.map fun method => (block.path, method, some block.handler)

/-- What the lists of the file are, under a path in front of them. -/
abbrev Meaning := (name : String) → (start : String) → List Block

/-- The blocks of a route under a path: that of its view, or those of the list that it includes. -/
def RouteCall.blocks (meaning : Meaning) (start : String) (route : RouteCall) : List Block :=
  match route.target with
  | .view view => [⟨start ++ route.path, route.methods, view.handler⟩]
  | .list inclusion => meaning inclusion.list (start ++ route.path)

/-- The blocks of a list under a path. -/
def PatternList.blocks (meaning : Meaning) (start : String) : PatternList → List Block
  | .display routes => routes.flatMap (RouteCall.blocks meaning start)
  | .sum left right => left.blocks meaning start ++ right.blocks meaning start
  | .name id => meaning id start

/-- What the lists of the file are after a statement. -/
def Statement.meaning (meaning : Meaning) (statement : Statement) : Meaning :=
  match statement.assigned? with
  | some name => Function.update meaning name fun start => statement.list.blocks meaning start
  | none => Function.update meaning patternsName fun start =>
      meaning patternsName start ++ statement.list.blocks meaning start

section Meaning

variable {meaning other : Meaning}

theorem RouteCall.blocks_congr (start : String) (route : RouteCall)
    (same : ∀ name, route.included? = some name → meaning name = other name) :
    route.blocks meaning start = route.blocks other start := by
  rw [RouteCall.blocks, RouteCall.blocks]
  cases leads : route.target with
  | view view => rfl
  | list inclusion =>
      have agrees : meaning inclusion.list = other inclusion.list :=
        same inclusion.list (by rw [RouteCall.included?, leads])
      simp only [agrees]

/-- The blocks of a list only depend on the lists that it names or includes. -/
theorem PatternList.blocks_congr (start : String) (list : PatternList)
    (named : ∀ name ∈ list.named, meaning name = other name)
    (included : ∀ name ∈ list.included, meaning name = other name) :
    list.blocks meaning start = list.blocks other start := by
  induction list with
  | display routes =>
      rw [PatternList.blocks, PatternList.blocks]
      refine List.flatMap_congr fun route member => ?_
      refine route.blocks_congr start fun name leads => included name ?_
      exact List.mem_filterMap.2 ⟨route, member, leads⟩
  | sum left right first second =>
      rw [PatternList.included_sum] at included
      rw [PatternList.named] at named
      rw [PatternList.blocks, PatternList.blocks,
        first (fun name member => named name (List.mem_append_left _ member))
          (fun name member => included name (List.mem_append_left _ member)),
        second (fun name member => named name (List.mem_append_right _ member))
          (fun name member => included name (List.mem_append_right _ member))]
  | name id =>
      have agrees : meaning id = other id := named id (List.mem_singleton.2 rfl)
      rw [PatternList.blocks, PatternList.blocks, agrees]

end Meaning

end RouteAtlas.Django.StraightLine
