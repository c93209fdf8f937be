/-
Module: RouteAtlas.Python.Node
Layer: Python
Purpose: The places of a module where routes can be declared, flattened into one sequence from top to
  bottom: assignments, calls, class and function definitions. Blocks are entered, and so are the
  bodies of functions, after the node of the function itself; bodies of classes are not. Grouped
  handlers (`except*`) and `match` statements are passed over as a whole.
Trusted boundary: none
Main exports: Node, Expr.calls, Stmt.nodes, nodes
-/
import RouteAtlas.Python.Syntax

namespace RouteAtlas.Python

/-- A place where a route can be declared. An annotated assignment with a value is an assignment. -/
inductive Node where
  | assign (targets : List Expr) (value : Expr)
  | augmented (target value : Expr)
  | call (call : Call)
  | class_ (decl : ClassDecl)
  | function (decl : FunctionDecl)
deriving Repr, Inhabited

mutual

/-- The calls that an expression makes openly, each before those in its parts. Calls inside
subscripts, comparisons, comprehensions and other dynamic expressions do not count. -/
def Expr.calls : Expr → List Call
  | .call func args keywords =>
      ⟨func, args, keywords⟩ :: (func.calls ++ callsOf args ++ callsOfKeywords keywords)
  | .attribute value _ => value.calls
  | .list items => callsOf items
  | .tuple items => callsOf items
  | .binary _ left right => left.calls ++ right.calls
  | _ => []

/-- The calls in a sequence of expressions. -/
def callsOf : List Expr → List Call
  | [] => []
  | e :: rest => e.calls ++ callsOf rest

/-- The calls in the values of keyword arguments. -/
def callsOfKeywords : List (Option String × Expr) → List Call
  | [] => []
  | (_, e) :: rest => e.calls ++ callsOfKeywords rest

end

/-- The calls of an expression as nodes. -/
def Expr.callNodes (e : Expr) : List Node := e.calls.map .call

mutual

/-- The nodes of one statement. -/
def Stmt.nodes : Stmt → List Node
  | .assign targets value => .assign targets value :: value.callNodes
  | .annotated target (some value) => .assign [target] value :: value.callNodes
  | .annotated _ none => []
  | .augmented target value => .augmented target value :: value.callNodes
  | .expression value => value.callNodes
  | .returned (some value) => value.callNodes
  | .returned none => []
  | .imports _ => []
  | .importsFrom _ _ _ => []
  | .simple => []
  | .function name decorators body => .function ⟨name, decorators, body⟩ :: nodesOf body
  | .class_ name bases body => [.class_ ⟨name, bases, body⟩]
  | .branch body orElse => nodesOf body ++ nodesOf orElse
  | .loop body orElse => nodesOf body ++ nodesOf orElse
  | .context body => nodesOf body
  | .guarded false body handlers orElse final =>
      nodesOf body ++ nodesOfBlocks handlers ++ nodesOf orElse ++ nodesOf final
  | .guarded true _ _ _ _ => []
  | .cases _ => []

/-- The nodes of the statements of a block, in order. -/
def nodesOf : List Stmt → List Node
  | [] => []
  | stmt :: rest => stmt.nodes ++ nodesOf rest

/-- The nodes of several blocks, in order. -/
def nodesOfBlocks : List (List Stmt) → List Node
  | [] => []
  | block :: rest => nodesOf block ++ nodesOfBlocks rest

end

/-- The nodes of a module. -/
def nodes (body : Module) : List Node := nodesOf body

theorem nodes_cons (stmt : Stmt) (rest : Module) : nodes (stmt :: rest) = stmt.nodes ++ nodes rest :=
  rfl

/-- The nodes of two parts of a module follow each other. -/
theorem nodes_append (first second : Module) :
    nodes (first ++ second) = nodes first ++ nodes second := by
  induction first with
  | nil => rfl
  | cons stmt rest ih => rw [List.cons_append, nodes_cons, nodes_cons, ih, List.append_assoc]

/-- The classes among the nodes. -/
def classNodes (body : Module) : List ClassDecl :=
  (nodes body).filterMap fun node =>
    match node with
    | .class_ decl => some decl
    | _ => none

/-- The functions among the nodes. -/
def functionNodes (body : Module) : List FunctionDecl :=
  (nodes body).filterMap fun node =>
    match node with
    | .function decl => some decl
    | _ => none

end RouteAtlas.Python
