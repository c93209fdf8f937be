/-
Module: RouteAtlas.Proofs.Python.Readers
Layer: Proofs
Purpose: What a reader of the grammar gives, wherever in the tokens of a source it starts. A property of
  it follows the way in which the reader is put together: one rule for each combinator, so that a rule of
  the grammar needs no look at the tokens themselves.
Trusted boundary: none
Main exports: Parse.Gives, upcoming_gives, identifier_gives, many_gives, announced_gives,
  strictCommaList_gives, commaList_gives
-/
import RouteAtlas.Python.Grammar.Basic

namespace RouteAtlas.Python

namespace Grammar

variable {α β : Type} {source : List Token}

/-! ### What a reader gives -/

/-- Whatever a reader gives has a property, wherever in the tokens of a source it starts. -/
def Parse.Gives (source : List Token) (reader : Parse α) (property : α → Prop) : Prop :=
  ∀ ⦃tokens item rest⦄, tokens <:+ source → reader.run tokens = some (item, rest) → property item

namespace Parse.Gives

theorem pure {item : α} {property : α → Prop} (holds : property item) :
    Gives source (Pure.pure item) property := by
  intro tokens given rest _ read
  exact (Prod.mk.inj (Option.some.inj read)).1 ▸ holds

theorem failure (property : α → Prop) : Gives source Alternative.failure property :=
  fun _ _ _ _ read => nomatch read

/-- A reader that goes on after another one starts in the same source, since that one only takes tokens
away. -/
theorem bind {first : Parse α} {next : α → Parse β} {property : α → Prop} {goal : β → Prop}
    (starts : Gives source first property)
    (goesOn : ∀ item, property item → Gives source (next item) goal) :
    Gives source (first >>= next) goal := by
  intro tokens item rest within read
  change (Parse.bind first next).run tokens = some (item, rest) at read
  rw [Parse.bind] at read
  dsimp only at read
  split at read
  · cases read
  · next found left begun =>
      exact goesOn found (starts within begun) ((first.run_suffix begun).trans within) read

/-- What is read first need not matter. -/
theorem after {first : Parse α} {next : α → Parse β} {goal : β → Prop}
    (goesOn : ∀ item, Gives source (next item) goal) : Gives source (first >>= next) goal :=
  bind (fun _ _ _ _ _ => trivial : Gives source first fun _ => True) fun item _ => goesOn item

theorem ite {condition : Prop} [Decidable condition] {yes no : Parse α} {goal : α → Prop}
    (holds : Gives source yes goal) (fails : Gives source no goal) :
    Gives source (if condition then yes else no) goal := by
  split
  · exact holds
  · exact fails

/-- Nothing was found. -/
theorem none {property : α → Prop} :
    Gives source (Pure.pure Option.none) fun found => ∀ item ∈ found, property item :=
  pure fun _ empty => nomatch empty

theorem some {item : α} {property : α → Prop} (holds : property item) :
    Gives source (Pure.pure (Option.some item)) fun found => ∀ item ∈ found, property item :=
  pure fun _ same => Option.some.inj same ▸ holds

end Parse.Gives

open Parse (Gives)

theorem upcoming_gives : Gives source upcoming (· <:+ source) := by
  intro tokens item rest within read
  exact (Prod.mk.inj (Option.some.inj read)).1 ▸ within

theorem identifier_gives : Gives source identifier fun id => .name id ∈ source := by
  refine upcoming_gives.bind fun ahead within => ?_
  split
  · exact .after fun _ => .pure (within.subset List.mem_cons_self)
  · exact .failure _

theorem manyWithin_gives {reader : Parse (Option α)} {property : α → Prop}
    (gives : Gives source reader fun found => ∀ item ∈ found, property item) (fuel : Nat) :
    Gives source (manyWithin fuel reader) fun items => ∀ item ∈ items, property item := by
  induction fuel with
  | zero => exact .pure (List.forall_mem_nil _)
  | succ fuel ih =>
      refine gives.bind fun found holds => ?_
      split
      · exact .pure (List.forall_mem_nil _)
      · next item =>
          exact ih.bind fun items rest => .pure (List.forall_mem_cons.2 ⟨holds item rfl, rest⟩)

theorem many_gives {reader : Parse (Option α)} {property : α → Prop}
    (gives : Gives source reader fun found => ∀ item ∈ found, property item) :
    Gives source (many reader) fun items => ∀ item ∈ items, property item := by
  refine gives.bind fun found holds => ?_
  split
  · exact .pure (List.forall_mem_nil _)
  · next item =>
      refine .after fun ahead => ?_
      refine (manyWithin_gives gives _).bind fun items rest => ?_
      exact .pure (List.forall_mem_cons.2 ⟨holds item rfl, rest⟩)

theorem announced_gives {mark : Parse Bool} {reader : Parse α} {property : α → Prop}
    (gives : Gives source reader property) :
    Gives source (announced mark reader) fun found => ∀ item ∈ found, property item :=
  .after fun _ => .ite (gives.bind fun _ holds => .some holds) .none

theorem strictCommaList_gives {reader : Parse α} {property : α → Prop}
    (gives : Gives source reader property) :
    Gives source (strictCommaList reader) fun items => ∀ item ∈ items, property item := by
  refine gives.bind fun first holds => ?_
  refine (many_gives (announced_gives gives)).bind fun others rest => ?_
  exact .pure (List.forall_mem_cons.2 ⟨holds, rest⟩)

theorem commaList_gives {starts : Token → Bool} {reader : Parse α} {property : α → Prop}
    (gives : Gives source reader property) :
    Gives source (commaList starts reader) fun items => ∀ item ∈ items.1, property item := by
  refine gives.bind fun first holds => ?_
  refine .bind (?_ : Gives source _ fun others => ∀ item ∈ others, property item) fun others rest => ?_
  · refine many_gives (.after fun ahead => ?_)
    split
    · exact .ite (.after fun _ => gives.bind fun item holds => .some holds) .none
    · exact .none
  · exact .after fun _ => .pure (List.forall_mem_cons.2 ⟨holds, rest⟩)

end Grammar

end RouteAtlas.Python
