/-
Module: RouteAtlas.Proofs.Django.Building
Layer: Proofs
Purpose: Running a URL configuration without branches. Displays and sums make new list objects, names
  are bound to objects, extensions change the object of the patterns in place, and a route that
  includes a list holds on to its object. In the end the object of the patterns is unrolled. This gives
  the meaning of the configuration, unless a list that is also the list of patterns is used after it
  was extended.
Trusted boundary: human-reviewed spec
Main exports: Item, Memory, Statement.run, Unrolls, Unrolls.deterministic, Configuration.Builds,
  Unshared, Faithful, Faithful.run, Configuration.builds_meaning
-/
import RouteAtlas.Proofs.Django.StraightLine

namespace RouteAtlas.Django.StraightLine

/-! ### Objects -/

/-- A pattern in a list object: a view, or the list object that is included. -/
inductive Item where
  | view (path : String) (methods : List Method) (handler : String)
  | included (path : String) (object : Nat)
deriving DecidableEq, Repr

/-- The list objects that were made, by number, and the objects to which names are bound. -/
structure Memory where
  lists : Nat → List Item := fun _ => []
  size : Nat := 0
  names : String → Option Nat := fun _ => none

namespace Memory

variable (memory : Memory)

/-- A name is bound to an object. -/
def bind (name : String) (object : Nat) : Memory :=
  { memory with names := Function.update memory.names name (some object) }

/-- A name is bound to a new object. -/
def allocate (name : String) (items : List Item) : Memory where
  lists := Function.update memory.lists memory.size items
  size := memory.size + 1
  names := Function.update memory.names name (some memory.size)

/-- An object is extended in place. -/
def extend (object : Nat) (items : List Item) : Memory :=
  { memory with lists := Function.update memory.lists object (memory.lists object ++ items) }

theorem bind_names_self (name : String) (object : Nat) :
    (memory.bind name object).names name = some object := Function.update_self _ _ _

theorem bind_names_other {name other : String} (object : Nat) (differs : other ≠ name) :
    (memory.bind name object).names other = memory.names other := Function.update_of_ne differs _ _

theorem allocate_names_self (name : String) (items : List Item) :
    (memory.allocate name items).names name = some memory.size := Function.update_self _ _ _

theorem allocate_names_other {name other : String} (items : List Item) (differs : other ≠ name) :
    (memory.allocate name items).names other = memory.names other :=
  Function.update_of_ne differs _ _

theorem allocate_lists_self (name : String) (items : List Item) :
    (memory.allocate name items).lists memory.size = items := Function.update_self _ _ _

theorem allocate_lists_other {object : Nat} (name : String) (items : List Item)
    (differs : object ≠ memory.size) :
    (memory.allocate name items).lists object = memory.lists object :=
  Function.update_of_ne differs _ _

theorem extend_lists_self (object : Nat) (items : List Item) :
    (memory.extend object items).lists object = memory.lists object ++ items :=
  Function.update_self _ _ _

theorem extend_lists_other {object other : Nat} (items : List Item) (differs : other ≠ object) :
    (memory.extend object items).lists other = memory.lists other :=
  Function.update_of_ne differs _ _

end Memory

/-- The pattern that a route call returns. -/
def RouteCall.item (memory : Memory) (route : RouteCall) : Option Item :=
  match route.target with
  | .view view => some (.view route.path route.methods view.handler)
  | .list inclusion => (memory.names inclusion.list).map (.included route.path)

/-- What is in the list object that an expression has as its value. -/
def PatternList.items (memory : Memory) : PatternList → Option (List Item)
  | .display routes => routes.mapM (RouteCall.item memory)
  | .sum left right => do return (← left.items memory) ++ (← right.items memory)
  | .name id => (memory.names id).map memory.lists

/-- Run a statement. A bare name has the object itself as its value, and all else a new one. -/
def Statement.run (memory : Memory) (statement : Statement) : Option Memory :=
  match statement.assigned?, statement.list.bare? with
  | some name, some other => (memory.names other).map (memory.bind name)
  | some name, none => (statement.list.items memory).map (memory.allocate name)
  | none, _ => do
      let items ← statement.list.items memory
      let object ← memory.names patternsName
      return memory.extend object items

/-- The blocks of some patterns under a path, with the lists that they include expanded in place. -/
inductive Unrolls (lists : Nat → List Item) : String → List Item → List Block → Prop where
  | nil {start : String} : Unrolls lists start [] []
  | view {start path handler : String} {methods : List Method} {rest : List Item}
      {others : List Block} (after : Unrolls lists start rest others) :
      Unrolls lists start (.view path methods handler :: rest)
        (⟨start ++ path, methods, handler⟩ :: others)
  | included {start path : String} {object : Nat} {rest : List Item} {blocks others : List Block}
      (inside : Unrolls lists (start ++ path) (lists object) blocks)
      (after : Unrolls lists start rest others) :
      Unrolls lists start (.included path object :: rest) (blocks ++ others)

/-- The configuration runs to its end, and the list of patterns that it has built unrolls to some
blocks. -/
def Configuration.Builds (conf : Configuration) (blocks : List Block) : Prop :=
  ∃ memory object, conf.statements.foldlM Statement.run {} = some memory ∧
    memory.names patternsName = some object ∧
    Unrolls memory.lists "" (memory.lists object) blocks

/-- If the list of patterns is another name of a local list and is extended, the local list is included
nowhere, and it is not named after that. -/
def Unshared (statements : List Statement) : Prop :=
  ∀ name, .assign patternsName (.name name) ∈ statements →
    ∀ before addition after, statements = before ++ addition :: after →
      addition.assigned? = none →
        (∀ statement ∈ statements, name ∉ statement.list.included) ∧
          ∀ statement ∈ after, name ∉ statement.list.named

/-! ### Unrolling -/

section Unrolling

variable {lists : Nat → List Item}

theorem Unrolls.append {start : String} {items more : List Item} {blocks others : List Block}
    (first : Unrolls lists start items blocks) (second : Unrolls lists start more others) :
    Unrolls lists start (items ++ more) (blocks ++ others) := by
  induction first with
  | nil => exact second
  | view _ ih => exact .view (ih second)
  | included inside _ _ ih =>
      rw [List.append_assoc]
      exact .included inside (ih second)

/-- Patterns unroll in only one way. -/
theorem Unrolls.deterministic {start : String} {items : List Item} {blocks others : List Block}
    (first : Unrolls lists start items blocks) (second : Unrolls lists start items others) :
    blocks = others := by
  induction first generalizing others with
  | nil =>
      cases second
      rfl
  | view _ ih =>
      cases second with
      | view after => rw [ih after]
  | included _ _ insideEq afterEq =>
      cases second with
      | included inside after => rw [insideEq inside, afterEq after]

/-- Patterns unroll as before where the objects that they reach are as before. -/
theorem Unrolls.transport {other : Nat → List Item} {kept : Nat → Prop}
    (agree : ∀ object, kept object → other object = lists object)
    (closed : ∀ object path inner, kept object → .included path inner ∈ lists object → kept inner)
    {start : String} {items : List Item} {blocks : List Block}
    (unrolls : Unrolls lists start items blocks)
    (reached : ∀ path inner, .included path inner ∈ items → kept inner) :
    Unrolls other start items blocks := by
  induction unrolls with
  | nil => exact .nil
  | view _ ih => exact .view (ih fun path inner member => reached path inner (.tail _ member))
  | @included start path object rest blocks others _ _ insideIh afterIh =>
      have here : kept object := reached path object (.head _)
      refine .included ?_ (afterIh fun path inner member => reached path inner (.tail _ member))
      rw [agree object here]
      exact insideIh fun path inner member => closed object path inner here member

end Unrolling

/-- A configuration builds one list of blocks. -/
theorem Configuration.Builds.deterministic {conf : Configuration} {blocks others : List Block}
    (first : conf.Builds blocks) (second : conf.Builds others) : blocks = others := by
  obtain ⟨memory, object, runs, bound, unrolls⟩ := first
  obtain ⟨memory', object', runs', bound', unrolls'⟩ := second
  obtain rfl := Option.some.inj (runs.symm.trans runs')
  obtain rfl := Option.some.inj (bound.symm.trans bound')
  exact unrolls.deterministic unrolls'

/-! ### Values -/

/-- The object of a name unrolls to what the name stands for. -/
structure Shows (memory : Memory) (meaning : Meaning) (name : String) (object : Nat) : Prop where
  bound : memory.names name = some object
  unrolls : ∀ start, Unrolls memory.lists start (memory.lists object) (meaning name start)

/-- The value of a list, where all names in it have objects that unroll to what they stand for: it
unrolls to the blocks of the list, and what it includes is included by its routes or by an object that
it names. -/
structure Evaluates (memory : Memory) (meaning : Meaning) (list : PatternList)
    (items : List Item) : Prop where
  value : list.items memory = some items
  unrolls : ∀ start, Unrolls memory.lists start items (list.blocks meaning start)
  origin : ∀ path inner, .included path inner ∈ items →
    (∃ name ∈ list.included, memory.names name = some inner) ∨
      ∃ object, .included path inner ∈ memory.lists object

section Values

variable {memory : Memory} {meaning : Meaning}

/-- A route call returns a pattern. -/
theorem RouteCall.evaluates (route : RouteCall)
    (included : ∀ name, route.included? = some name → ∃ object, Shows memory meaning name object) :
    ∃ item, route.item memory = some item ∧
      (∀ start, Unrolls memory.lists start [item] (route.blocks meaning start)) ∧
      ∀ path inner, .included path inner = item →
        ∃ name, route.included? = some name ∧ memory.names name = some inner := by
  cases leads : route.target with
  | view target =>
      refine ⟨.view route.path route.methods target.handler, ?_, ?_, ?_⟩
      · rw [RouteCall.item, leads]
      · intro start
        rw [RouteCall.blocks, leads]
        exact .view .nil
      · intro path inner same
        cases same
  | list inclusion =>
      have names : route.included? = some inclusion.list := by rw [RouteCall.included?, leads]
      obtain ⟨object, bound, unrolls⟩ := included inclusion.list names
      refine ⟨.included route.path object, ?_, ?_, ?_⟩
      · simp only [RouteCall.item, leads, bound, Option.map_some]
      · intro start
        rw [RouteCall.blocks, leads]
        simpa using Unrolls.included (unrolls (start ++ route.path)) .nil
      · intro path inner same
        cases same
        exact ⟨inclusion.list, names, bound⟩

theorem display_evaluates (routes : List RouteCall)
    (included : ∀ name ∈ (PatternList.display routes).included,
      ∃ object, Shows memory meaning name object) :
    ∃ items, Evaluates memory meaning (.display routes) items := by
  induction routes with
  | nil => exact ⟨[], rfl, fun _ => .nil, fun path inner member => nomatch member⟩
  | cons route rest ih =>
      obtain ⟨items, value, unrolls, origin⟩ :=
        ih fun name member => included name (PatternList.included_tail member)
      obtain ⟨item, returns, unrollsItem, originItem⟩ :=
        route.evaluates fun name leads => included name (PatternList.included_head leads)
      rw [PatternList.items] at value
      refine ⟨item :: items, ?_, ?_, ?_⟩
      · rw [PatternList.items, List.mapM_cons, returns, value]
        rfl
      · intro start
        exact (unrollsItem start).append (unrolls start)
      · intro path inner member
        rcases List.mem_cons.1 member with same | later
        · obtain ⟨name, leads, bound⟩ := originItem path inner same
          exact .inl ⟨name, PatternList.included_head leads, bound⟩
        · rcases origin path inner later with ⟨name, member, bound⟩ | held
          · exact .inl ⟨name, PatternList.included_tail member, bound⟩
          · exact .inr held

/-- A list has a value. -/
theorem PatternList.evaluates (list : PatternList)
    (named : ∀ name ∈ list.named, ∃ object, Shows memory meaning name object)
    (included : ∀ name ∈ list.included, ∃ object, Shows memory meaning name object) :
    ∃ items, Evaluates memory meaning list items := by
  induction list with
  | display routes => exact display_evaluates routes included
  | sum left right first second =>
      rw [PatternList.included_sum] at included
      obtain ⟨front, frontValue, frontUnrolls, frontOrigin⟩ :=
        first (fun name member => named name (List.mem_append_left _ member))
          fun name member => included name (List.mem_append_left _ member)
      obtain ⟨back, backValue, backUnrolls, backOrigin⟩ :=
        second (fun name member => named name (List.mem_append_right _ member))
          fun name member => included name (List.mem_append_right _ member)
      refine ⟨front ++ back, ?_, ?_, ?_⟩
      · rw [PatternList.items, frontValue, backValue]
        rfl
      · intro start
        exact (frontUnrolls start).append (backUnrolls start)
      · intro path inner member
        rw [PatternList.included_sum]
        rcases List.mem_append.1 member with here | there
        · exact (frontOrigin path inner here).imp_left fun ⟨other, member, bound⟩ =>
            ⟨other, List.mem_append_left _ member, bound⟩
        · exact (backOrigin path inner there).imp_left fun ⟨other, member, bound⟩ =>
            ⟨other, List.mem_append_right _ member, bound⟩
  | name id =>
      obtain ⟨object, bound, unrolls⟩ := named id (List.mem_singleton.2 rfl)
      refine ⟨memory.lists object, ?_, unrolls, fun path inner member => .inr ⟨object, member⟩⟩
      rw [PatternList.items, bound]
      rfl

end Values

/-! ### Statements -/

/-- What is known of the memory when some names are bound and some lists were included. Lists that are
`shared` become the list of patterns; once that was extended (`touched`), nothing is said about them.
-/
structure Faithful (shared : String → Prop) (touched : Prop) (bound seen : List String)
    (memory : Memory) (meaning : Meaning) : Prop where
  placed : ∀ name ∈ bound, ∃ object, memory.names name = some object
  made : ∀ name object, memory.names name = some object → object < memory.size
  distinct : ∀ name ∈ bound, ∀ other ∈ bound, name ≠ patternsName → other ≠ patternsName →
    memory.names name = memory.names other → name = other
  own : ∀ name ∈ bound, name ≠ patternsName → ¬ shared name →
    memory.names name ≠ memory.names patternsName
  included : ∀ object path inner, .included path inner ∈ memory.lists object →
    ∃ name ∈ seen, memory.names name = some inner
  seenBound : ∀ name ∈ seen, name ∈ bound ∧ name ≠ patternsName
  shows : ∀ name ∈ bound, (touched → ¬ shared name) → ∃ object, Shows memory meaning name object

/-- The lists that a list uses still stand for what they did when they were assigned. -/
def PatternList.Alive (shared : String → Prop) (touched : Prop) (list : PatternList) : Prop :=
  touched → ∀ name, name ∈ list.named ∨ name ∈ list.included → ¬ shared name

/-- Statements that use shared lists only as long as the list of patterns was not extended, and include
none of them if it is. -/
structure Respects (shared : String → Prop) (touched : Prop) (seen : List String)
    (statements : List Statement) : Prop where
  shares : ∀ name, .assign patternsName (.name name) ∈ statements → shared name
  alive : touched → ∀ statement ∈ statements, statement.list.Alive shared True
  additions : ∀ before addition after, statements = before ++ addition :: after →
    addition.assigned? = none → ∀ name, shared name → name ∉ seen ∧
      (∀ statement ∈ statements, name ∉ statement.list.included) ∧
      ∀ statement ∈ after, name ∉ statement.list.named

namespace Respects

variable {shared : String → Prop} {touched : Prop} {seen : List String} {statement : Statement}
  {rest : List Statement}

/-- What is included up to an extension is not shared. -/
theorem apart (respects : Respects shared touched seen (statement :: rest))
    (growing : statement.assigned? = none) :
    ∀ name ∈ statement.list.included ++ seen, ¬ shared name := by
  intro name member becomes
  obtain ⟨unseen, excluded, _⟩ := respects.additions [] statement rest rfl growing name becomes
  rcases List.mem_append.1 member with here | before
  · exact excluded statement List.mem_cons_self here
  · exact unseen before

theorem tail (respects : Respects shared touched seen (statement :: rest)) :
    Respects shared (touched ∨ statement.assigned? = none) (statement.list.included ++ seen) rest := by
  refine ⟨fun name member => respects.shares name (List.mem_cons_of_mem _ member), ?_, ?_⟩
  · rintro (touched | growing) other member _
    · exact respects.alive touched other (List.mem_cons_of_mem _ member) trivial
    · intro name uses becomes
      obtain ⟨_, excluded, unnamed⟩ :=
        respects.additions [] statement rest rfl growing name becomes
      rcases uses with named | included
      · exact unnamed other member named
      · exact excluded other (List.mem_cons_of_mem _ member) included
  · intro before addition after written growing name becomes
    obtain ⟨unseen, excluded, unnamed⟩ := respects.additions (statement :: before) addition after
      (congrArg (statement :: ·) written) growing name becomes
    refine ⟨fun member => ?_, fun other member => ?_, unnamed⟩
    · rcases List.mem_append.1 member with here | earlier
      · exact excluded statement List.mem_cons_self here
      · exact unseen earlier
    · exact excluded other (List.mem_cons_of_mem _ member)

end Respects

/-- Nothing was extended or included before the first statement. -/
theorem Unshared.respects {statements : List Statement} (unshared : Unshared statements) :
    Respects (fun name => .assign patternsName (.name name) ∈ statements) False [] statements where
  shares := fun _ member => member
  alive := fun never => never.elim
  additions := fun before addition after written growing name becomes =>
    ⟨List.not_mem_nil, unshared name becomes before addition after written growing⟩

/-- An object that is left as it is, with all that it reaches, is still what its name stands for. -/
theorem Shows.transport {memory after : Memory} {meaning next : Meaning} {name : String}
    {object : Nat} {kept : Nat → Prop} (was : Shows memory meaning name object)
    (named : after.names name = memory.names name) (meant : next name = meaning name)
    (agree : ∀ object, kept object → after.lists object = memory.lists object)
    (closed : ∀ object path inner, .included path inner ∈ memory.lists object → kept inner)
    (here : kept object) : Shows after next name object := by
  refine ⟨named.trans was.bound, fun start => ?_⟩
  rw [agree object here, meant]
  exact (was.unrolls start).transport agree (fun object path inner _ => closed object path inner)
    (closed object)

namespace Faithful

variable {shared : String → Prop} {touched : Prop} {bound seen : List String} {memory : Memory}
  {meaning : Meaning}

/-- Nothing is assigned yet. -/
theorem start : Faithful shared False [] [] {} fun _ _ => [] where
  placed := fun _ member => nomatch member
  made := fun _ _ bound => nomatch bound
  distinct := fun _ member => nomatch member
  own := fun _ member => nomatch member
  included := fun _ _ _ member => nomatch member
  seenBound := fun _ member => nomatch member
  shows := fun _ member => nomatch member

variable {list : PatternList} {items : List Item}

/-- A list has a value. -/
theorem evaluates (faithful : Faithful shared touched bound seen memory meaning)
    (known : list.Known bound) (alive : list.Alive shared touched) :
    ∃ items, Evaluates memory meaning list items := by
  refine list.evaluates (fun name member => ?_) fun name member => ?_
  · exact faithful.shows name (known.named name member).1 fun touched =>
      alive touched name (.inl member)
  · exact faithful.shows name (known.included name member).1 fun touched =>
      alive touched name (.inr member)

/-- What is in the value of a list was included by the name of a local list. -/
theorem origin (faithful : Faithful shared touched bound seen memory meaning)
    (evaluates : Evaluates memory meaning list items) {path : String} {inner : Nat}
    (member : .included path inner ∈ items) :
    ∃ name ∈ list.included ++ seen, memory.names name = some inner := by
  rcases evaluates.origin path inner member with ⟨name, here, names⟩ | ⟨object, held⟩
  · exact ⟨name, List.mem_append_left _ here, names⟩
  · obtain ⟨name, before, names⟩ := faithful.included object path inner held
    exact ⟨name, List.mem_append_right _ before, names⟩

theorem usedBound (faithful : Faithful shared touched bound seen memory meaning)
    (known : list.Known bound) {name : String} (member : name ∈ list.included ++ seen) :
    name ∈ bound ∧ name ≠ patternsName :=
  (List.mem_append.1 member).elim (known.included name) (faithful.seenBound name)

/-- A new object is made and bound to a new name. -/
theorem allocate (faithful : Faithful shared touched bound seen memory meaning)
    (known : list.Known bound) (evaluates : Evaluates memory meaning list items) {name : String}
    (fresh : name ∉ bound) :
    Faithful shared touched (name :: bound) (list.included ++ seen) (memory.allocate name items)
      (Function.update meaning name fun start => list.blocks meaning start) := by
  have differs {other : String} (member : other ∈ bound) : other ≠ name := fun same =>
    fresh (same ▸ member)
  have self := memory.allocate_names_self name items
  have named {other : String} (unlike : other ≠ name) := memory.allocate_names_other items unlike
  have old {other : String} (unlike : other ≠ name) :
      (memory.allocate name items).names other ≠ some memory.size := fun new =>
    Nat.lt_irrefl _ (faithful.made other _ ((named unlike).symm.trans new))
  -- Objects that were made before are left as they are, and only reach such objects.
  have agree : ∀ object, object < memory.size →
      (memory.allocate name items).lists object = memory.lists object := fun object before =>
    memory.allocate_lists_other name items (Nat.ne_of_lt before)
  have closed : ∀ object path inner, .included path inner ∈ memory.lists object →
      inner < memory.size := by
    intro object path inner member
    obtain ⟨other, _, names⟩ := faithful.included object path inner member
    exact faithful.made other inner names
  refine ⟨?placed, ?made, ?distinct, ?own, ?included, ?seenBound, ?shows⟩
  case placed =>
    intro other member
    rcases List.mem_cons.1 member with rfl | before
    · exact ⟨memory.size, self⟩
    · rw [named (differs before)]
      exact faithful.placed other before
  case made =>
    intro other object names
    by_cases same : other = name
    · subst same
      exact Option.some.inj (self.symm.trans names) ▸ Nat.lt_succ_self _
    · exact Nat.lt_succ_of_lt (faithful.made other object ((named same).symm.trans names))
  case distinct =>
    intro first memberFirst second memberSecond firstLocal secondLocal same
    rcases List.mem_cons.1 memberFirst with rfl | firstBefore
    · rcases List.mem_cons.1 memberSecond with rfl | secondBefore
      · rfl
      · exact absurd (same.symm.trans self) (old (differs secondBefore))
    · rcases List.mem_cons.1 memberSecond with rfl | secondBefore
      · exact absurd (same.trans self) (old (differs firstBefore))
      · rw [named (differs firstBefore), named (differs secondBefore)] at same
        exact faithful.distinct first firstBefore second secondBefore firstLocal secondLocal same
  case own =>
    intro other member isLocal apart same
    rcases List.mem_cons.1 member with rfl | before
    · exact old isLocal.symm (same.symm.trans self)
    · by_cases patterns : name = patternsName
      · exact old (differs before) (same.trans (patterns ▸ self))
      · rw [named (differs before), named fun equal => patterns equal.symm] at same
        exact faithful.own other before isLocal apart same
  case included =>
    intro object path inner member
    have found : ∃ other ∈ list.included ++ seen, memory.names other = some inner := by
      by_cases new : object = memory.size
      · rw [new, memory.allocate_lists_self] at member
        exact faithful.origin evaluates member
      · rw [memory.allocate_lists_other name items new] at member
        obtain ⟨other, before, names⟩ := faithful.included object path inner member
        exact ⟨other, List.mem_append_right _ before, names⟩
    obtain ⟨other, there, names⟩ := found
    exact ⟨other, there, (named (differs (faithful.usedBound known there).1)).trans names⟩
  case seenBound =>
    intro other member
    obtain ⟨before, isLocal⟩ := faithful.usedBound known member
    exact ⟨List.mem_cons_of_mem _ before, isLocal⟩
  case shows =>
    intro other member unshared
    rcases List.mem_cons.1 member with rfl | before
    · refine ⟨memory.size, self, fun start => ?_⟩
      rw [Function.update_self, memory.allocate_lists_self]
      refine (evaluates.unrolls start).transport agree
        (fun object path inner _ => closed object path inner) fun path inner member => ?_
      obtain ⟨source, _, names⟩ := faithful.origin evaluates member
      exact faithful.made source inner names
    · obtain ⟨object, was⟩ := faithful.shows other before unshared
      exact ⟨object, was.transport (named (differs before))
        (Function.update_of_ne (differs before) _ _) agree closed (faithful.made other object was.bound)⟩

/-- The list of patterns becomes another name of a local list. -/
theorem bind (faithful : Faithful shared touched bound seen memory meaning) {name : String}
    {object : Nat} (isLocal : name ∈ bound ∧ name ≠ patternsName) (fresh : patternsName ∉ bound)
    (becomes : shared name) (was : Shows memory meaning name object) :
    Faithful shared touched (patternsName :: bound) seen (memory.bind patternsName object)
      (Function.update meaning patternsName fun start => meaning name start) := by
  have differs {other : String} (member : other ∈ bound) : other ≠ patternsName := fun same =>
    fresh (same ▸ member)
  have self := memory.bind_names_self patternsName object
  have named {other : String} (unlike : other ≠ patternsName) :=
    memory.bind_names_other object unlike
  refine ⟨?placed, ?made, ?distinct, ?own, ?included, ?seenBound, ?shows⟩
  case placed =>
    intro other member
    rcases List.mem_cons.1 member with rfl | before
    · exact ⟨object, self⟩
    · rw [named (differs before)]
      exact faithful.placed other before
  case made =>
    intro other inner names
    by_cases same : other = patternsName
    · subst same
      exact Option.some.inj (self.symm.trans names) ▸ faithful.made name object was.bound
    · exact faithful.made other inner ((named same).symm.trans names)
  case distinct =>
    intro first memberFirst second memberSecond firstLocal secondLocal same
    rw [named firstLocal, named secondLocal] at same
    exact faithful.distinct first ((List.mem_cons.1 memberFirst).resolve_left firstLocal) second
      ((List.mem_cons.1 memberSecond).resolve_left secondLocal) firstLocal secondLocal same
  case own =>
    intro other member otherLocal apart same
    rw [named otherLocal, self, ← was.bound] at same
    have equal := faithful.distinct other ((List.mem_cons.1 member).resolve_left otherLocal) name
      isLocal.1 otherLocal isLocal.2 same
    exact apart (equal ▸ becomes)
  case included =>
    intro inside path inner member
    obtain ⟨other, before, names⟩ := faithful.included inside path inner member
    exact ⟨other, before, (named (faithful.seenBound other before).2).trans names⟩
  case seenBound =>
    intro other member
    obtain ⟨before, otherLocal⟩ := faithful.seenBound other member
    exact ⟨List.mem_cons_of_mem _ before, otherLocal⟩
  case shows =>
    intro other member unshared
    rcases List.mem_cons.1 member with rfl | before
    · refine ⟨object, self, fun start => ?_⟩
      rw [Function.update_self]
      exact was.unrolls start
    · obtain ⟨inner, names, unrolls⟩ := faithful.shows other before unshared
      refine ⟨inner, (named (differs before)).trans names, fun start => ?_⟩
      rw [Function.update_of_ne (differs before)]
      exact unrolls start

/-- The list of patterns is extended in place, if no list that is the same object was included. -/
theorem extend (faithful : Faithful shared touched bound seen memory meaning)
    (known : list.Known bound) (evaluates : Evaluates memory meaning list items)
    (started : patternsName ∈ bound) (unlike : ¬ shared patternsName)
    (apart : ∀ name ∈ list.included ++ seen, ¬ shared name) :
    ∃ object, memory.names patternsName = some object ∧
      Faithful shared True bound (list.included ++ seen) (memory.extend object items)
        (Function.update meaning patternsName fun start =>
          meaning patternsName start ++ list.blocks meaning start) := by
  obtain ⟨object, patterns⟩ := faithful.shows patternsName started fun _ => unlike
  -- The object of the patterns is not reached from any list, so that all others stay as they are.
  have separate : ∀ name ∈ list.included ++ seen, ∀ inner, memory.names name = some inner →
      inner ≠ object := by
    rintro name member inner names rfl
    obtain ⟨before, isLocal⟩ := faithful.usedBound known member
    exact faithful.own name before isLocal (apart name member) (names.trans patterns.bound.symm)
  have agree : ∀ other, other ≠ object →
      (memory.extend object items).lists other = memory.lists other := fun other differs =>
    memory.extend_lists_other items differs
  have closed : ∀ inside path inner, .included path inner ∈ memory.lists inside →
      inner ≠ object := by
    intro inside path inner member
    obtain ⟨name, before, names⟩ := faithful.included inside path inner member
    exact separate name (List.mem_append_right _ before) inner names
  refine ⟨object, patterns.bound, faithful.placed, faithful.made, faithful.distinct, faithful.own,
    ?included, fun name member => faithful.usedBound known member, ?shows⟩
  case included =>
    intro inside path inner member
    have before (held : .included path inner ∈ memory.lists inside) :
        ∃ name ∈ list.included ++ seen, memory.names name = some inner := by
      obtain ⟨name, there, names⟩ := faithful.included inside path inner held
      exact ⟨name, List.mem_append_right _ there, names⟩
    by_cases same : inside = object
    · subst same
      rw [memory.extend_lists_self] at member
      rcases List.mem_append.1 member with held | added
      · exact before held
      · exact faithful.origin evaluates added
    · rw [memory.extend_lists_other items same] at member
      exact before member
  case shows =>
    intro name member unshared
    by_cases same : name = patternsName
    · subst same
      refine ⟨object, patterns.bound, fun start => ?_⟩
      rw [memory.extend_lists_self, Function.update_self]
      refine Unrolls.append ?_ ?_
      · exact (patterns.unrolls start).transport agree
          (fun inside path inner _ => closed inside path inner) (closed object)
      · refine (evaluates.unrolls start).transport agree
          (fun inside path inner _ => closed inside path inner) fun path inner added => ?_
        obtain ⟨source, there, names⟩ := faithful.origin evaluates added
        exact separate source there inner names
    · obtain ⟨inner, was⟩ := faithful.shows name member fun _ => unshared trivial
      refine ⟨inner, was.transport rfl (Function.update_of_ne same _ _) agree closed ?_⟩
      rintro rfl
      exact faithful.own name member same (unshared trivial) (was.bound.trans patterns.bound.symm)

/-- One statement. -/
theorem step (faithful : Faithful shared touched bound seen memory meaning) {statement : Statement}
    (allowed : statement.Allowed bound) (alive : statement.list.Alive shared touched)
    (unlike : ¬ shared patternsName)
    (shares : ∀ name, statement = .assign patternsName (.name name) → shared name)
    (apart : statement.assigned? = none →
      ∀ name ∈ statement.list.included ++ seen, ¬ shared name) :
    ∃ after, statement.run memory = some after ∧
      Faithful shared (touched ∨ statement.assigned? = none) (statement.assigned?.toList ++ bound)
        (statement.list.included ++ seen) after (statement.meaning meaning) := by
  rw [Statement.run, Statement.meaning]
  cases assigns : statement.assigned? with
  | none =>
      obtain ⟨items, values⟩ := faithful.evaluates allowed.known alive
      obtain ⟨object, patterns, extended⟩ := faithful.extend allowed.known values
        (allowed.started assigns) unlike (apart assigns)
      refine ⟨memory.extend object items, ?_, ?_⟩
      · simp only [values.value, patterns]
        rfl
      · simpa using extended
  | some name =>
      obtain ⟨fresh, named⟩ := allowed.fresh name assigns
      have same : (touched ∨ some name = none) ↔ touched := by simp
      rw [propext same]
      cases bare : statement.list.bare? with
      | none =>
          obtain ⟨items, values⟩ := faithful.evaluates allowed.known alive
          refine ⟨memory.allocate name items, ?_, faithful.allocate allowed.known values fresh⟩
          simp only [values.value]
          rfl
      | some other =>
          have patterns : name = patternsName := by
            by_contra isLocal
            rw [named isLocal] at bare
            cases bare
          subst patterns
          have written : statement = .assign patternsName (.name other) := by
            cases statement with
            | assign target list =>
                cases list with
                | name id =>
                    cases assigns
                    cases bare
                    rfl
                | _ => cases bare
            | _ => cases assigns
          have named : other ∈ statement.list.named := by
            rw [written]
            exact List.mem_singleton.2 rfl
          have isLocal := allowed.known.named other named
          obtain ⟨object, was⟩ := faithful.shows other isLocal.1 fun touched =>
            alive touched other (.inl named)
          refine ⟨memory.bind patternsName object, ?_, ?_⟩
          · simp only [was.bound]
            rfl
          · rw [written]
            exact faithful.bind isLocal fresh (shares other written) was

/-- Statements run to their end. -/
theorem run {statements : List Statement}
    (faithful : Faithful shared touched bound seen memory meaning)
    (inScope : Scoped bound statements) (unlike : ¬ shared patternsName)
    (respects : Respects shared touched seen statements) :
    ∃ after object, statements.foldlM Statement.run memory = some after ∧
      Shows after (statements.foldl Statement.meaning meaning) patternsName object := by
  induction statements generalizing touched bound seen memory meaning with
  | nil =>
      obtain ⟨object, shows⟩ := faithful.shows patternsName inScope fun _ => unlike
      exact ⟨memory, object, rfl, shows⟩
  | cons statement rest ih =>
      obtain ⟨allowed, restInScope⟩ := inScope
      obtain ⟨next, runs, stepped⟩ := faithful.step allowed
        (fun touched => respects.alive touched statement List.mem_cons_self trivial) unlike
        (fun name same => respects.shares name (same ▸ List.mem_cons_self)) respects.apart
      obtain ⟨after, object, runsRest, shows⟩ := ih stepped restInScope respects.tail
      refine ⟨after, object, ?_, shows⟩
      rw [List.foldlM_cons, runs]
      exact runsRest

end Faithful

/-- What the lists of a configuration are in the end. -/
def Configuration.meaning (conf : Configuration) : Meaning :=
  conf.statements.foldl Statement.meaning fun _ _ => []

/-- A local list is not the list of patterns. -/
theorem Scoped.bare_local {bound : List String} {statements : List Statement}
    (inScope : Scoped bound statements) {target name : String}
    (member : .assign target (.name name) ∈ statements) : name ≠ patternsName := by
  induction statements generalizing bound with
  | nil => cases member
  | cons statement rest ih =>
      rcases List.mem_cons.1 member with rfl | later
      · exact (inScope.1.known.named name (List.mem_singleton.2 rfl)).2
      · exact ih inScope.2 later

/-- A configuration builds the blocks that the patterns stand for. -/
theorem Configuration.builds_meaning (conf : Configuration) (unshared : Unshared conf.statements) :
    conf.Builds (conf.meaning patternsName "") := by
  have unlike : ¬ .assign patternsName (.name patternsName) ∈ conf.statements := fun member =>
    conf.inScope.bare_local member rfl
  obtain ⟨memory, object, runs, shows⟩ := Faithful.start.run conf.inScope unlike unshared.respects
  exact ⟨memory, object, runs, shows.bound, shows.unrolls ""⟩

end RouteAtlas.Django.StraightLine
