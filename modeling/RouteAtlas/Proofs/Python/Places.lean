/-
Module: RouteAtlas.Proofs.Python.Places
Layer: Proofs
Purpose: Where the nodes of a module come from. A statement has a place in the module: its index, or the
  index of the statement that it is in, the number of the block there and its place in that block. The
  nodes of a module are what is said by the statements that are reached through entered blocks, each at
  its place, from top to bottom. Classes are not entered; of the other blocks that can hold declarations
  those of grouped handlers alone are not, so a declaration is missed exactly if it stands there.
Trusted boundary: none
Main exports: Stmt.blocks, Stmt.declaration?, Stmt.ownNodes, Stmt.isOpened, Stmt.isEntered,
  Stmt.Contains, StandsAt, Increasing, exists_places, nodes_places, MeetsDeclarations, declarations_places,
  MeetsDeclarations.reached, declarations_met_iff
-/
import Mathlib.Data.List.Basic
import Mathlib.Data.List.Perm.Subperm
import RouteAtlas.Python.Node

namespace RouteAtlas.Python

namespace Stmt

/-- The blocks of a statement, from top to bottom. -/
def blocks : Stmt → List (List Stmt)
  | .function _ _ body => [body]
  | .class_ _ _ body => [body]
  | .branch body orElse => [body, orElse]
  | .loop body orElse => [body, orElse]
  | .context body => [body]
  | .guarded _ body handlers orElse final => body :: (handlers ++ [orElse, final])
  | .cases bodies => bodies
  | _ => []

/-- What a statement declares: it assigns a value, or it defines a class or a function. -/
def declaration? : Stmt → Option Node
  | .assign targets value => some (.assign targets value)
  | .annotated target (some value) => some (.assign [target] value)
  | .augmented target value => some (.augmented target value)
  | .function name decorators body => some (.function ⟨name, decorators, body⟩)
  | .class_ name bases body => some (.class_ ⟨name, bases, body⟩)
  | _ => none

/-- The value that a statement has on its own line. -/
def value? : Stmt → Option Expr
  | .assign _ value => some value
  | .annotated _ value => value
  | .augmented _ value => some value
  | .expression value => some value
  | .returned value => value
  | _ => none

/-- What a statement says without its blocks: its declaration, and then the calls of its value. -/
def ownNodes (stmt : Stmt) : List Node :=
  stmt.declaration?.toList ++ stmt.value?.elim [] Expr.callNodes

/-- The blocks of functions, of conditions, loops and contexts and of guarded statements hold declarations
of the module. Those of a class belong to the class. -/
def isOpened : Stmt → Bool
  | .function _ _ _ => true
  | .branch _ _ => true
  | .loop _ _ => true
  | .context _ => true
  | .guarded _ _ _ _ _ => true
  | _ => false

/-- The handlers are grouped. -/
def isGrouped : Stmt → Bool
  | .guarded grouped _ _ _ _ => grouped
  | _ => false

/-- The statements whose blocks are searched for nodes. -/
def isEntered (stmt : Stmt) : Bool := stmt.isOpened && !stmt.isGrouped

/-- A statement at its place in another one, all blocks on the way being in statements that are
entered. -/
inductive Contains (entered : Stmt → Bool) : Stmt → List Nat → Stmt → Prop where
  | self {stmt : Stmt} : Contains entered stmt [] stmt
  | inside {outer next stmt : Stmt} {number index : Nat} {block : List Stmt} {place : List Nat}
      (enters : entered outer = true) (there : outer.blocks[number]? = some block)
      (below : block[index]? = some next) (contains : Contains entered next place stmt) :
      Contains entered outer (number :: index :: place) stmt

/-- The blocks of a statement are smaller than the statement. -/
theorem sizeOf_lt_of_mem_blocks {outer : Stmt} {block : List Stmt} (there : block ∈ outer.blocks) :
    sizeOf block < sizeOf outer := by
  cases outer with
  | guarded grouped body handlers orElse final =>
      rw [guarded.sizeOf_spec]
      simp only [blocks, List.mem_cons, List.mem_append, List.not_mem_nil, or_false] at there
      rcases there with rfl | handler | rfl | rfl
      · omega
      · have smaller := List.sizeOf_lt_of_mem handler
        omega
      · omega
      · omega
  | cases bodies =>
      rw [cases.sizeOf_spec]
      have smaller : sizeOf block < sizeOf bodies := List.sizeOf_lt_of_mem there
      omega
  | function name decorators body =>
      obtain rfl := List.mem_singleton.1 there
      simp +arith
  | class_ name bases body =>
      obtain rfl := List.mem_singleton.1 there
      simp +arith
  | context body =>
      obtain rfl := List.mem_singleton.1 there
      simp +arith
  | branch body orElse =>
      rcases List.mem_pair.1 there with rfl | rfl
      · simp +arith
      · simp +arith
  | loop body orElse =>
      rcases List.mem_pair.1 there with rfl | rfl
      · simp +arith
      · simp +arith
  | _ => cases there

/-- What holds of a statement if it holds of all statements in its blocks holds of all statements. -/
theorem block_induction {motive : Stmt → Prop}
    (step : ∀ outer : Stmt, (∀ block ∈ outer.blocks, ∀ stmt ∈ block, motive stmt) → motive outer)
    (stmt : Stmt) : motive stmt :=
  step stmt fun _ _ inner _ => block_induction step inner
termination_by sizeOf stmt
decreasing_by
  rename_i block there below
  exact Nat.lt_trans (List.sizeOf_lt_of_mem below) (sizeOf_lt_of_mem_blocks there)

end Stmt

/-- A statement at its place in a module, all blocks on the way being in statements that are entered. -/
def StandsAt (entered : Stmt → Bool) (body : Module) (place : List Nat) (stmt : Stmt) : Prop :=
  ∃ index rest outer, place = index :: rest ∧ body[index]? = some outer ∧
    outer.Contains entered rest stmt

/-! ### Places in order -/

/-- Places with their statements, from top to bottom: what a statement contains comes after it, and
before the next statement. So no place is listed twice. -/
def Increasing (places : List (List Nat × Stmt)) : Prop :=
  places.Pairwise fun first second => first.1 < second.1

section Order

variable {β : Type}

/-- The places in a sequence of things are those in the things, each after the number of its thing. If all
that is collected from a thing is what is said at its places, so it is for the sequence. -/
theorem exists_numbered {α : Type} {has : α → List Nat → Stmt → Prop} {collect : α → List β}
    {own : Stmt → List β} {items : List α}
    (each : ∀ item ∈ items, ∃ places, Increasing places ∧
      (∀ place stmt, (place, stmt) ∈ places ↔ has item place stmt) ∧
      collect item = places.flatMap fun found => own found.2) (start : Nat) :
    ∃ places, Increasing places ∧
      (∀ place stmt, (place, stmt) ∈ places ↔ ∃ number rest item, place = (start + number) :: rest ∧
        items[number]? = some item ∧ has item rest stmt) ∧
      items.flatMap collect = places.flatMap fun found => own found.2 := by
  induction items generalizing start with
  | nil => exact ⟨[], .nil, by simp, rfl⟩
  | cons item others ih =>
      obtain ⟨first, firstIncreasing, firstComplete, firstCollected⟩ := each item List.mem_cons_self
      obtain ⟨later, laterIncreasing, laterComplete, laterCollected⟩ :=
        ih (fun other there => each other (List.mem_cons_of_mem item there)) (start + 1)
      refine ⟨first.map (fun found => (start :: found.1, found.2)) ++ later, ?_, ?_, ?_⟩
      · refine List.pairwise_append.2 ⟨?_, laterIncreasing, ?_⟩
        · refine List.pairwise_map.2 (firstIncreasing.imp fun before => ?_)
          exact List.cons_lt_cons_self.2 before
        · rintro early there ⟨place, stmt⟩ member
          obtain ⟨found, _, rfl⟩ := List.mem_map.1 there
          obtain ⟨number, rest, _, rfl, _⟩ := (laterComplete place stmt).1 member
          exact List.Lex.rel (by omega)
      · intro place stmt
        rw [List.mem_append, List.mem_map, laterComplete]
        constructor
        · rintro (⟨⟨rest, found⟩, there, same⟩ | ⟨number, rest, other, rfl, there, contains⟩)
          · obtain ⟨rfl, rfl⟩ := Prod.mk.inj same
            exact ⟨0, rest, item, rfl, rfl, (firstComplete rest found).1 there⟩
          · exact ⟨number + 1, rest, other, by rw [Nat.add_assoc, Nat.add_comm 1], there, contains⟩
        · rintro ⟨number, rest, other, rfl, there, contains⟩
          cases number with
          | zero =>
              obtain rfl : item = other := Option.some.inj there
              exact .inl ⟨(rest, stmt), (firstComplete rest stmt).2 contains, rfl⟩
          | succ number =>
              exact .inr ⟨number, rest, other, by rw [Nat.add_assoc, Nat.add_comm 1], there, contains⟩
      · rw [List.flatMap_cons, firstCollected, laterCollected, List.flatMap_append, List.flatMap_map]

variable {entered : Stmt → Bool} {own collect : Stmt → List β}

/-- What a traversal collects from a statement, if it takes what the statement says itself and then, where
it enters the statement, what it collects from its blocks, is what is said at the places in the
statement. -/
theorem Stmt.exists_places
    (collects : ∀ stmt, collect stmt =
      own stmt ++ if entered stmt then stmt.blocks.flatMap fun block => block.flatMap collect else [])
    (stmt : Stmt) :
    ∃ places, Increasing places ∧
      (∀ place inner, (place, inner) ∈ places ↔ stmt.Contains entered place inner) ∧
      collect stmt = places.flatMap fun found => own found.2 := by
  induction stmt using Stmt.block_induction with
  | step outer ih =>
      by_cases enters : entered outer = true
      · have inBlock : ∀ block ∈ outer.blocks, _ := fun block there =>
          exists_numbered (ih block there) 0
        obtain ⟨below, increasing, complete, collected⟩ := exists_numbered inBlock 0
        refine ⟨([], outer) :: below, ?_, ?_, ?_⟩
        · refine List.pairwise_cons.2 ⟨?_, increasing⟩
          rintro ⟨place, inner⟩ member
          obtain ⟨number, rest, _, rfl, _⟩ := (complete place inner).1 member
          exact List.nil_lt_cons _ _
        · intro place inner
          rw [List.mem_cons, complete]
          constructor
          · rintro (same | ⟨number, _, block, rfl, there, index, rest, next, rfl, below, contains⟩)
            · obtain ⟨rfl, rfl⟩ := Prod.mk.inj same
              exact .self
            · rw [Nat.zero_add, Nat.zero_add]
              exact .inside enters there below contains
          · intro contains
            cases contains with
            | self => exact .inl rfl
            | inside _ there below contains =>
                exact .inr ⟨_, _, _, by rw [Nat.zero_add], there, _, _, _, by rw [Nat.zero_add], below,
                  contains⟩
        · rw [collects, if_pos enters, collected, List.flatMap_cons]
      · refine ⟨[([], outer)], List.pairwise_singleton _ _, ?_, ?_⟩
        · intro place inner
          rw [List.mem_singleton]
          constructor
          · intro same
            obtain ⟨rfl, rfl⟩ := Prod.mk.inj same
            exact .self
          · intro contains
            cases contains with
            | self => rfl
            | inside enter _ _ _ => exact absurd enter enters
        · rw [collects, if_neg enters, List.flatMap_singleton, List.append_nil]

theorem exists_places
    (collects : ∀ stmt, collect stmt =
      own stmt ++ if entered stmt then stmt.blocks.flatMap fun block => block.flatMap collect else [])
    (body : Module) :
    ∃ places, Increasing places ∧
      (∀ place stmt, (place, stmt) ∈ places ↔ StandsAt entered body place stmt) ∧
      body.flatMap collect = places.flatMap fun found => own found.2 := by
  obtain ⟨places, increasing, complete, collected⟩ :=
    exists_numbered (fun stmt (_ : stmt ∈ body) => Stmt.exists_places collects stmt) 0
  refine ⟨places, increasing, fun place stmt => ?_, collected⟩
  simp only [complete, StandsAt, Nat.zero_add]

end Order

/-! ### Nodes -/

theorem nodesOf_eq (block : List Stmt) : nodesOf block = block.flatMap Stmt.nodes := by
  induction block with
  | nil => rfl
  | cons stmt rest ih => rw [nodesOf, ih, List.flatMap_cons]

theorem nodesOfBlocks_eq (blocks : List (List Stmt)) :
    nodesOfBlocks blocks = blocks.flatMap fun block => block.flatMap Stmt.nodes := by
  induction blocks with
  | nil => rfl
  | cons block rest ih => rw [nodesOfBlocks, ih, nodesOf_eq, List.flatMap_cons]

/-- The nodes of a statement are what it says itself, and then those of its blocks if it is entered. -/
theorem Stmt.nodes_eq (stmt : Stmt) :
    stmt.nodes = stmt.ownNodes ++
      if stmt.isEntered then stmt.blocks.flatMap fun block => block.flatMap Stmt.nodes else [] := by
  cases stmt with
  | annotated target value =>
      cases value <;> simp [nodes, ownNodes, declaration?, value?, isEntered, isOpened]
  | returned value => cases value <;> simp [nodes, ownNodes, declaration?, value?, isEntered, isOpened]
  | guarded grouped body handlers orElse final =>
      cases grouped <;>
        simp [nodes, ownNodes, declaration?, value?, isEntered, isOpened, isGrouped, blocks, nodesOf_eq,
          nodesOfBlocks_eq]
  | _ => simp [nodes, ownNodes, declaration?, value?, isEntered, isOpened, isGrouped, blocks, nodesOf_eq]

/-- The nodes of a module are what its statements say, each at its place, from top to bottom. -/
theorem nodes_places (body : Module) :
    ∃ places, Increasing places ∧
      (∀ place stmt, (place, stmt) ∈ places ↔ StandsAt Stmt.isEntered body place stmt) ∧
      nodes body = places.flatMap fun found => found.2.ownNodes := by
  rw [nodes, nodesOf_eq]
  exact exists_places Stmt.nodes_eq body

/-! ### Declarations -/

/-- The nodes that declare something. -/
def Node.isDeclaration : Node → Bool
  | .call _ => false
  | _ => true

/-- What is declared at a place of a module. -/
def DeclaredAt (entered : Stmt → Bool) (body : Module) (place : List Nat) (node : Node) : Prop :=
  ∃ stmt, StandsAt entered body place stmt ∧ stmt.declaration? = some node

/-- The declarations among the nodes of a module are all that is declared in it, each once, from top to
bottom. -/
def MeetsDeclarations (body : Module) : Prop :=
  ∃ declared : List (List Nat × Node),
    (declared.Pairwise fun first second => first.1 < second.1) ∧
    (∀ place node, (place, node) ∈ declared ↔ DeclaredAt Stmt.isOpened body place node) ∧
    (nodes body).filter Node.isDeclaration = declared.map Prod.snd

/-- A statement is inside a guarded one with grouped handlers. -/
def InGrouped (body : Module) (stmt : Stmt) : Prop :=
  ∃ place outer inner, StandsAt Stmt.isOpened body place outer ∧ outer.isGrouped = true ∧
    inner ≠ [] ∧ outer.Contains Stmt.isOpened inner stmt

section Declarations

variable {body : Module} {place : List Nat} {stmt outer : Stmt}

theorem filter_ownNodes (stmt : Stmt) :
    stmt.ownNodes.filter Node.isDeclaration = stmt.declaration?.toList := by
  have calls : (stmt.value?.elim [] Expr.callNodes).filter Node.isDeclaration = [] := by
    cases stmt.value? with
    | none => rfl
    | some value =>
        rw [Option.elim_some, Expr.callNodes, List.filter_map, List.map_eq_nil_iff]
        exact List.filter_eq_nil_iff.2 fun _ _ => Bool.false_ne_true
  have own : stmt.declaration?.toList.filter Node.isDeclaration = stmt.declaration?.toList := by
    cases stmt with
    | annotated target value => cases value <;> rfl
    | _ => rfl
  rw [Stmt.ownNodes, List.filter_append, calls, own, List.append_nil]

/-- The declarations among the nodes are those at places that are reached through entered blocks. -/
theorem declarations_places (body : Module) :
    ∃ declared : List (List Nat × Node),
      (declared.Pairwise fun first second => first.1 < second.1) ∧
      (∀ place node, (place, node) ∈ declared ↔ DeclaredAt Stmt.isEntered body place node) ∧
      (nodes body).filter Node.isDeclaration = declared.map Prod.snd := by
  obtain ⟨places, increasing, complete, collected⟩ := nodes_places body
  refine ⟨places.filterMap fun found => found.2.declaration?.map (found.1, ·), ?_, ?_, ?_⟩
  · refine List.pairwise_filterMap.2 (increasing.imp ?_)
    intro first second before declared one other another
    obtain ⟨_, _, rfl⟩ := Option.map_eq_some_iff.1 one
    obtain ⟨_, _, rfl⟩ := Option.map_eq_some_iff.1 another
    exact before
  · intro place node
    rw [List.mem_filterMap]
    constructor
    · rintro ⟨⟨_, stmt⟩, there, declared⟩
      obtain ⟨_, declares, same⟩ := Option.map_eq_some_iff.1 declared
      obtain ⟨rfl, rfl⟩ := Prod.mk.inj same
      exact ⟨stmt, (complete _ stmt).1 there, declares⟩
    · rintro ⟨stmt, stands, declares⟩
      exact ⟨(place, stmt), (complete place stmt).2 stands, by rw [declares]; rfl⟩
  · rw [collected, List.filter_flatMap, List.map_filterMap]
    simp only [filter_ownNodes, Option.map_map, Function.comp_def, Option.map_id_fun']
    exact (List.filterMap_eq_flatMap_toList _ _).symm

/-- What is entered is opened. -/
theorem Stmt.Contains.opened (contains : outer.Contains isEntered place stmt) :
    outer.Contains isOpened place stmt := by
  induction contains with
  | self => exact .self
  | inside enters there below _ ih => exact .inside (Bool.and_eq_true_iff.1 enters).1 there below ih

/-- What is reached through opened blocks is reached through entered ones, or it is in grouped handlers. -/
theorem Stmt.Contains.entered_or (contains : outer.Contains isOpened place stmt) :
    outer.Contains isEntered place stmt ∨
      ∃ front middle inner, outer.Contains isOpened front middle ∧ middle.isGrouped = true ∧
        inner ≠ [] ∧ middle.Contains isOpened inner stmt := by
  induction contains with
  | self => exact .inl .self
  | @inside outer next stmt number index block place enters there below contains ih =>
      by_cases grouped : outer.isGrouped = true
      · exact .inr ⟨[], outer, _, .self, grouped, List.cons_ne_nil _ _,
          .inside enters there below contains⟩
      · rcases ih with reached | ⟨front, middle, inner, leads, within, proper, holds⟩
        · refine .inl (.inside ?_ there below reached)
          simp [isEntered, enters, grouped]
        · exact .inr ⟨number :: index :: front, middle, inner, .inside enters there below leads, within,
            proper, holds⟩

/-- What is in grouped handlers is not reached through entered blocks. -/
theorem Stmt.Contains.not_entered {front inner : List Nat} {middle : Stmt}
    (leads : outer.Contains isOpened front middle) (grouped : middle.isGrouped = true)
    (proper : inner ≠ []) : ¬ outer.Contains isEntered (front ++ inner) stmt := by
  induction leads with
  | self =>
      intro contains
      cases contains with
      | self => exact proper rfl
      | inside enters _ _ _ => simp [isEntered, grouped] at enters
  | inside _ there below _ ih =>
      intro contains
      cases contains with
      | inside _ alsoThere alsoBelow contains =>
          obtain rfl := Option.some.inj (there.symm.trans alsoThere)
          obtain rfl := Option.some.inj (below.symm.trans alsoBelow)
          exact ih grouped contains

theorem Stmt.Contains.trans {front inner : List Nat} {middle : Stmt} {entered : Stmt → Bool}
    (leads : outer.Contains entered front middle) (contains : middle.Contains entered inner stmt) :
    outer.Contains entered (front ++ inner) stmt := by
  induction leads with
  | self => exact contains
  | inside enters there below _ ih => exact .inside enters there below (ih contains)

theorem DeclaredAt.opened {node : Node} (declared : DeclaredAt Stmt.isEntered body place node) :
    DeclaredAt Stmt.isOpened body place node := by
  obtain ⟨stmt, ⟨index, rest, outer, rfl, there, contains⟩, declares⟩ := declared
  exact ⟨stmt, ⟨index, rest, outer, rfl, there, contains.opened⟩, declares⟩

/-- The places at which a module declares something and those at which its nodes do are the same, unless
something is declared in grouped handlers. -/
theorem declaredAt_entered_iff (ungrouped : ∀ stmt, InGrouped body stmt → stmt.declaration? = none)
    (node : Node) :
    DeclaredAt Stmt.isEntered body place node ↔ DeclaredAt Stmt.isOpened body place node := by
  refine ⟨DeclaredAt.opened, ?_⟩
  rintro ⟨stmt, ⟨index, rest, outer, rfl, there, contains⟩, declares⟩
  rcases contains.entered_or with reached | ⟨front, middle, inner, leads, grouped, proper, holds⟩
  · exact ⟨stmt, ⟨index, rest, outer, rfl, there, reached⟩, declares⟩
  · have silent := ungrouped stmt
      ⟨_, middle, inner, ⟨index, front, outer, rfl, there, leads⟩, grouped, proper, holds⟩
    rw [silent] at declares
    cases declares

/-- If all declarations are met, each of them is reached through entered blocks. For what is met is part of
what is declared, and there is as much of it. -/
theorem MeetsDeclarations.reached (meets : MeetsDeclarations body) {node : Node}
    (declares : DeclaredAt Stmt.isOpened body place node) :
    DeclaredAt Stmt.isEntered body place node := by
  obtain ⟨declared, _, all, same⟩ := meets
  obtain ⟨met, increasing, complete, collected⟩ := declarations_places body
  have included : met ⊆ declared := fun found member =>
    (all found.1 found.2).2 ((complete found.1 found.2).1 member).opened
  have nodup : met.Nodup := increasing.imp fun before equal => by
    rw [equal] at before
    exact List.lt_irrefl _ before
  have lengths : declared.length = met.length := by
    rw [← List.length_map Prod.snd, ← same, collected, List.length_map]
  have perm : met.Perm declared :=
    (List.subperm_of_subset nodup included).perm_of_length_le (Nat.le_of_eq lengths)
  exact (complete place node).1 (perm.mem_iff.2 ((all place node).2 declares))

/-- What the nodes of a module tell of it, whatever blocks it has. They are what its statements say, each at
its place, from top to bottom, except for those in classes, in the cases of a match and in statements with
grouped handlers. Hence the declarations among them are all those in functions, conditions, loops, contexts
and guarded statements, each once and from top to bottom, if and only if nothing is declared in a statement
with grouped handlers. -/
theorem declarations_met_iff (body : Module) :
    (∃ places, Increasing places ∧
      (∀ place stmt, (place, stmt) ∈ places ↔ StandsAt Stmt.isEntered body place stmt) ∧
      nodes body = places.flatMap fun found => found.2.ownNodes) ∧
    (MeetsDeclarations body ↔ ∀ stmt, InGrouped body stmt → stmt.declaration? = none) := by
  refine ⟨nodes_places body, ?_⟩
  constructor
  · rintro meets stmt ⟨place, middle, inner, leads, grouped, proper, holds⟩
    by_contra silent
    obtain ⟨node, declares⟩ := Option.ne_none_iff_exists'.1 silent
    obtain ⟨index, front, outer, rfl, there, leads⟩ := leads
    have declared : DeclaredAt Stmt.isOpened body (index :: front ++ inner) node :=
      ⟨stmt, ⟨index, _, outer, rfl, there, leads.trans holds⟩, declares⟩
    obtain ⟨other, ⟨_, _, _, split, alsoThere, reached⟩, _⟩ := meets.reached declared
    obtain ⟨rfl, rfl⟩ := List.cons.inj split
    obtain rfl := Option.some.inj (there.symm.trans alsoThere)
    exact leads.not_entered grouped proper reached
  · intro ungrouped
    obtain ⟨met, increasing, complete, collected⟩ := declarations_places body
    refine ⟨met, increasing, fun place node => ?_, collected⟩
    rw [complete, declaredAt_entered_iff ungrouped]

/-- Patterns that are assigned in a statement with grouped handlers. -/
def groupedPatterns : Module :=
  [.guarded true [.assign [.name "urlpatterns"] (.list [])] [[.simple]] [] []]

/-- They are declared in the module, but not met. -/
theorem groupedPatterns_unmet :
    nodes groupedPatterns = [] ∧
      DeclaredAt Stmt.isOpened groupedPatterns [0, 0, 0] (.assign [.name "urlpatterns"] (.list [])) ∧
      ¬ MeetsDeclarations groupedPatterns := by
  have declares : DeclaredAt Stmt.isOpened groupedPatterns [0, 0, 0]
      (.assign [.name "urlpatterns"] (.list [])) :=
    ⟨_, ⟨0, [0, 0], _, rfl, rfl, .inside rfl rfl rfl .self⟩, rfl⟩
  refine ⟨rfl, declares, ?_⟩
  rintro ⟨declared, _, all, same⟩
  have nothing : declared = [] := List.map_eq_nil_iff.1 same.symm
  have listed := (all _ _).2 declares
  rw [nothing] at listed
  cases listed

end Declarations

end RouteAtlas.Python
