/-
Module: RouteAtlas.Python.Syntax
Layer: Python
Purpose: Syntax trees of Python modules, as far as a reader of route declarations has to tell them
  apart. Expressions keep what can be read off without running the program: literals, names,
  attributes, calls, displays and binary operators. All other expressions are `Expr.dynamic`: they
  are legal Python, but their value is known only at run time. Statements keep every block, so that
  a walk over a module meets each statement of it.
Trusted boundary: none
Main exports: Constant, BinaryOp, Expr, Call, Alias, Stmt, FunctionDecl, ClassDecl
-/

namespace RouteAtlas.Python

/-- A literal. Floats, imaginary numbers, bytes, `None` and `...` are all `other`. -/
inductive Constant where
  | text (value : String)
  | bool (value : Bool)
  | int (value : Nat)
  | other
deriving DecidableEq, Repr, Inhabited

/-- The binary operators, boolean operators and comparisons apart. -/
inductive BinaryOp where
  | add | sub | mul | matMul | div | floorDiv | mod | pow
  | shiftLeft | shiftRight | bitOr | bitXor | bitAnd
deriving DecidableEq, Repr, Inhabited

/-- Expressions. The keys of a dictionary display are those written out: an unpacked mapping
contributes none. A keyword argument without a name is an unpacked mapping. -/
inductive Expr where
  | constant (value : Constant)
  | name (id : String)
  | attribute (value : Expr) (attr : String)
  | call (func : Expr) (args : List Expr) (keywords : List (Option String × Expr))
  | list (items : List Expr)
  | tuple (items : List Expr)
  | dict (keys : List Expr)
  | binary (op : BinaryOp) (left right : Expr)
  | starred (value : Expr)
  | dynamic
deriving Repr, Inhabited

/-- The parts of a call expression. -/
structure Call where
  func : Expr
  args : List Expr
  keywords : List (Option String × Expr)
deriving Repr, Inhabited

/-- The call that an expression is, if it is one. -/
def Expr.asCall? : Expr → Option Call
  | .call func args keywords => some ⟨func, args, keywords⟩
  | _ => none

/-- One `name` or `name as other` of an import statement. -/
structure Alias where
  name : String
  asName : Option String
deriving DecidableEq, Repr, Inhabited

/-- Statements. Conditions, loop headers, context managers, exception classes and patterns are
dropped, because no route is declared in them; `simple` stands for the statements without a part
that matters (`pass`, `del`, `global`, `raise`, `assert`, a type alias and the like). -/
inductive Stmt where
  | assign (targets : List Expr) (value : Expr)
  | annotated (target : Expr) (value : Option Expr)
  | augmented (target : Expr) (value : Expr)
  | expression (value : Expr)
  | returned (value : Option Expr)
  | imports (names : List Alias)
  | importsFrom (module : Option String) (level : Nat) (names : List Alias)
  | simple
  | function (name : String) (decorators : List Expr) (body : List Stmt)
  | class_ (name : String) (bases : List Expr) (body : List Stmt)
  | branch (body orElse : List Stmt)
  | loop (body orElse : List Stmt)
  | context (body : List Stmt)
  | guarded (grouped : Bool) (body : List Stmt) (handlers : List (List Stmt))
      (orElse final : List Stmt)
  | cases (bodies : List (List Stmt))
deriving Repr, Inhabited

/-- The parts of a function definition, synchronous or not. -/
structure FunctionDecl where
  name : String
  decorators : List Expr
  body : List Stmt
deriving Repr, Inhabited

/-- The parts of a class definition. -/
structure ClassDecl where
  name : String
  bases : List Expr
  body : List Stmt
deriving Repr, Inhabited

/-- A module is the list of its top-level statements. -/
abbrev Module := List Stmt

/-- The class that a statement defines, if it defines one. -/
def Stmt.asClass? : Stmt → Option ClassDecl
  | .class_ name bases body => some ⟨name, bases, body⟩
  | _ => none

end RouteAtlas.Python
