/-
Module: RouteAtlas.Proofs.Django.Consumption
Layer: Proofs
Purpose: Pattern lists worked off without any bound. Patterns are consumed from a stack: a display or a
  sum leaves its parts, the name of a local list leaves the list, and all else adds entries at once.
  Nothing is consumed to the end from which a local list is reached that leads to itself.
Trusted boundary: none
Main exports: includedList?, callEntries_eq, turn, Consumes, Consumes.deterministic, mentions, Refers,
  Loops, Circular, Circular.turn, Consumes.not_circular
-/
import Mathlib.Logic.Relation
import RouteAtlas.Django.Pattern
import RouteAtlas.Proofs.Data.Bindings

namespace RouteAtlas.Django

open Python (Expr)

/-! ### One turn -/

/-- The local list that is included by its name. -/
def localTarget? (lists : ListTable) : Expr → Option String
  | .name id => if KeyMap.contains id lists then some id else none
  | _ => none

/-- The local list that a route call includes, and the path under which it does. -/
def includedList? (lists : ListTable) (call : Python.Call) : Option (String × String) :=
  if call.func.simpleName?.any ["path", "re_path", "url"].contains then
    (call.args.head?.bind Expr.text?).bind fun raw =>
      (((call.argOrKeyword? 1 "view").bind Expr.asCall?).filter fun inner =>
          inner.func.simpleName? = some "include").bind fun inner =>
        (inner.args.head?.bind (localTarget? lists)).map fun id => (raw, id)
  else none

theorem includedList?_known {lists : ListTable} {call : Python.Call} {raw id : String}
    (included : includedList? lists call = some (raw, id)) :
    KeyMap.contains id lists = true := by
  simp only [includedList?, Option.ite_none_right_eq_some, Option.bind_eq_some_iff,
    Option.map_eq_some_iff, Prod.mk.injEq] at included
  obtain ⟨_, _, _, _, _, _, ⟨target, _, known⟩, _, rfl⟩ := included
  cases target with
  | name id =>
      simp only [localTarget?, Option.ite_none_right_eq_some] at known
      exact Option.some.inj known.2 ▸ known.1
  | _ => cases known

/-- The entries that a route call adds itself. -/
def ownEntries (imports : Python.ImportTable) (lists : ListTable) (path : String)
    (call : Python.Call) : List Entry :=
  (callEntries ⟨imports, lists, fun _ _ => .ok []⟩ path call).toOption.getD []

section Own

variable (names : Surroundings) (path : String)

/-- What is included is a local list, or the same however those are expanded. -/
theorem includeEntries_eq (target : Expr) :
    includeEntries names path target =
      match localTarget? names.lists target with
      | some id => names.expand id path
      | none => .ok ((includeEntries ⟨names.imports, names.lists, fun _ _ => .ok []⟩ path
          target).toOption.getD []) := by
  cases target with
  | name id =>
      cases known : KeyMap.contains id names.lists with
      | true => simp [includeEntries, localTarget?, known]
      | false =>
          simp only [includeEntries, localTarget?, known]
          cases KeyMap.find? id names.imports with
          | none => rfl
          | some imported => rfl
  | tuple items =>
      simp only [includeEntries, localTarget?]
      cases items.head?.bind Expr.text? with
      | none => rfl
      | some module => rfl
  | constant value =>
      simp only [includeEntries, localTarget?]
      cases (Expr.constant value).text? with
      | none => rfl
      | some module => rfl
  | «attribute» value attr =>
      cases value with
      | name owner => rfl
      | _ => rfl
  | _ => rfl

/-- A route call is expanded to the list that it includes, or adds its own entries. -/
theorem callEntries_eq (call : Python.Call) :
    callEntries names path call =
      match includedList? names.lists call with
      | some (raw, id) => names.expand id (path ++ raw)
      | none => .ok (ownEntries names.imports names.lists path call) := by
  simp only [ownEntries, callEntries, includedList?]
  by_cases routes : call.func.simpleName?.any ["path", "re_path", "url"].contains = true
  · simp only [if_pos routes]
    cases call.args.head?.bind Expr.text? with
    | none => rfl
    | some raw =>
        simp only [Option.bind_some]
        cases ((call.argOrKeyword? 1 "view").bind Expr.asCall?).filter
            fun inner => inner.func.simpleName? = some "include" with
        | none => rfl
        | some inner =>
            simp only [Option.bind_some]
            cases inner.args.head? with
            | none => rfl
            | some target =>
                simp only [Option.bind_some]
                rw [includeEntries_eq]
                cases localTarget? names.lists target with
                | none => rfl
                | some id => rfl
  · simp only [routes]
    rfl

end Own

/-- One turn at some patterns under a path: the entries that they add at once, and the patterns that are
to be consumed in their place. -/
def turn (imports : Python.ImportTable) (lists : ListTable) (path : String) :
    Expr → List Entry × List (String × Expr)
  | .list items => ([], items.map fun item => (path, item))
  | .tuple items => ([], items.map fun item => (path, item))
  | .binary .add left right => ([], [(path, left), (path, right)])
  | .attribute (.name owner) attr => (if attr = "urls" then [.urlsOf owner path] else [], [])
  | .name id => ([], ((KeyMap.find? id lists).map fun list => (path, list)).toList)
  | .call func args keywords =>
      match includedList? lists ⟨func, args, keywords⟩ with
      | some (raw, id) => ([], [(path ++ raw, .name id)])
      | none => (ownEntries imports lists path ⟨func, args, keywords⟩, [])
  | _ => ([], [])

/-- Working off a stack of patterns, turn by turn, comes to an end and has added some entries. -/
inductive Consumes (imports : Python.ImportTable) (lists : ListTable) :
    List (String × Expr) → List Entry → Prop where
  | done : Consumes imports lists [] []
  | next {path : String} {patterns : Expr} {rest : List (String × Expr)} {entries : List Entry}
      (others : Consumes imports lists ((turn imports lists path patterns).2 ++ rest) entries) :
      Consumes imports lists ((path, patterns) :: rest)
        ((turn imports lists path patterns).1 ++ entries)

section Consumption

variable {imports : Python.ImportTable} {lists : ListTable}

/-- A turn by what it adds and leaves. -/
theorem Consumes.of_turn {path : String} {patterns : Expr} {own entries : List Entry}
    {left rest : List (String × Expr)} (turns : turn imports lists path patterns = (own, left))
    (others : Consumes imports lists (left ++ rest) entries) :
    Consumes imports lists ((path, patterns) :: rest) (own ++ entries) := by
  obtain ⟨rfl, rfl⟩ := Prod.mk.inj turns
  exact .next others

/-- A turn that only leaves the parts of what is consumed. -/
theorem Consumes.of_parts {path : String} {patterns : Expr} {entries : List Entry}
    {parts rest : List (String × Expr)} (turns : turn imports lists path patterns = ([], parts))
    (others : Consumes imports lists (parts ++ rest) entries) :
    Consumes imports lists ((path, patterns) :: rest) entries := .of_turn turns others

/-- There is only one way to work off a stack. -/
theorem Consumes.deterministic {stack : List (String × Expr)} {entries others : List Entry}
    (first : Consumes imports lists stack entries) (second : Consumes imports lists stack others) :
    entries = others := by
  induction first generalizing others with
  | done =>
      cases second
      rfl
  | next _ ih =>
      cases second with
      | next rest => rw [ih rest]

/-! ### References between lists -/

mutual

/-- The local lists that patterns refer to, by name or by including them. -/
def mentions (lists : ListTable) : Expr → List String
  | .list items => mentionsOfItems lists items
  | .tuple items => mentionsOfItems lists items
  | .binary .add left right => mentions lists left ++ mentions lists right
  | .name id => if KeyMap.contains id lists then [id] else []
  | .call func args keywords =>
      ((includedList? lists ⟨func, args, keywords⟩).map Prod.snd).toList
  | _ => []

/-- The local lists that several patterns refer to. -/
def mentionsOfItems (lists : ListTable) : List Expr → List String
  | [] => []
  | item :: rest => mentions lists item ++ mentionsOfItems lists rest

end

/-- A local list refers to another one, or to itself. -/
def Refers (lists : ListTable) (name other : String) : Prop :=
  ∃ list, KeyMap.find? name lists = some list ∧ other ∈ mentions lists list

/-- From a local list references lead to one that leads to itself. -/
def Loops (lists : ListTable) (name : String) : Prop :=
  ∃ other, Relation.ReflTransGen (Refers lists) name other ∧
    Relation.TransGen (Refers lists) other other

/-- Patterns refer to a local list from which references lead to one that leads to itself. -/
def Circular (lists : ListTable) (patterns : Expr) : Prop :=
  ∃ name ∈ mentions lists patterns, Loops lists name

/-- References that loop go on. -/
theorem Loops.next {name : String} (loops : Loops lists name) :
    ∃ list, KeyMap.find? name lists = some list ∧ Circular lists list := by
  obtain ⟨other, leads, cycle⟩ := loops
  rcases leads.cases_head with rfl | ⟨next, ⟨list, found, mentioned⟩, onward⟩
  · obtain ⟨next, ⟨list, found, mentioned⟩, back⟩ := Relation.TransGen.head'_iff.1 cycle
    exact ⟨list, found, next, mentioned, name, back, cycle⟩
  · exact ⟨list, found, next, mentioned, other, onward, cycle⟩

theorem circular_of_item {items : List Expr} {name : String}
    (mentioned : name ∈ mentionsOfItems lists items) (loops : Loops lists name) :
    ∃ item ∈ items, Circular lists item := by
  induction items with
  | nil => simp [mentionsOfItems] at mentioned
  | cons item rest ih =>
      rw [mentionsOfItems, List.mem_append] at mentioned
      rcases mentioned with here | later
      · exact ⟨item, List.mem_cons_self, name, here, loops⟩
      · obtain ⟨other, member, circular⟩ := ih later
        exact ⟨other, List.mem_cons_of_mem _ member, circular⟩

/-- What is circular leaves something circular. -/
theorem Circular.turn {patterns : Expr} (imports : Python.ImportTable) (path : String)
    (circular : Circular lists patterns) :
    ∃ next ∈ (turn imports lists path patterns).2, Circular lists next.2 := by
  obtain ⟨name, mentioned, loops⟩ := circular
  cases patterns with
  | list items =>
      obtain ⟨item, member, circular⟩ := circular_of_item mentioned loops
      exact ⟨(path, item), List.mem_map_of_mem member, circular⟩
  | tuple items =>
      obtain ⟨item, member, circular⟩ := circular_of_item mentioned loops
      exact ⟨(path, item), List.mem_map_of_mem member, circular⟩
  | binary op left right =>
      cases op with
      | add =>
          rcases List.mem_append.1 mentioned with here | there
          · exact ⟨(path, left), List.mem_cons_self, name, here, loops⟩
          · exact ⟨(path, right), List.mem_cons_of_mem _ List.mem_cons_self, name, there, loops⟩
      | _ => cases mentioned
  | name id =>
      obtain rfl : name = id := by
        rw [mentions] at mentioned
        split at mentioned
        · exact List.mem_singleton.1 mentioned
        · cases mentioned
      obtain ⟨list, found, circular⟩ := loops.next
      exact ⟨(path, list), by simp [Django.turn, found], circular⟩
  | call func args keywords =>
      rw [mentions] at mentioned
      rw [Django.turn]
      cases included : includedList? lists ⟨func, args, keywords⟩ with
      | none => simp [included] at mentioned
      | some target =>
          obtain ⟨raw, id⟩ := target
          obtain rfl : name = id := by simpa [included] using mentioned
          obtain ⟨list, found, _⟩ := loops.next
          refine ⟨(path ++ raw, .name name), List.mem_singleton.2 rfl, name, ?_, loops⟩
          simp [mentions, KeyMap.contains, found]
  | _ => cases mentioned

/-- Nothing circular is ever worked off. -/
theorem Consumes.not_circular {stack : List (String × Expr)} {entries : List Entry}
    (consumes : Consumes imports lists stack entries) :
    ∀ patterns ∈ stack, ¬ Circular lists patterns.2 := by
  induction consumes with
  | done => simp
  | @next path patterns rest entries _ ih =>
      intro other member circular
      rcases List.mem_cons.1 member with rfl | member
      · obtain ⟨next, left, circular⟩ := circular.turn imports path
        exact ih next (List.mem_append_left _ left) circular
      · exact ih other (List.mem_append_right _ member) circular

end Consumption

end RouteAtlas.Django
