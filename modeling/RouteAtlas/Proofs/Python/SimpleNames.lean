/-
Module: RouteAtlas.Proofs.Python.SimpleNames
Layer: Proofs
Purpose: The simple name of an expression, if the grammar gives it one, is a name among the tokens. Names
  and attributes are read in atoms and trailers. On the way up through the ranks of operators an
  expression either is handed on as it is or becomes part of one that has no simple name; the same holds
  of brackets around a single item.
Trusted boundary: none
Main exports: Written, Level.Written, atom_gives, primary_gives, operand_gives, test_gives,
  callArguments_gives, level_written
-/
import RouteAtlas.Proofs.Python.Readers
import RouteAtlas.Python.Grammar.Statement
import RouteAtlas.Python.Literal

namespace RouteAtlas.Python.Grammar

open Parse (Gives)

variable {source : List Token}

/-- If an expression has a simple name, this is a name among the tokens. -/
def Written (source : List Token) (e : Expr) : Prop := ∀ id ∈ e.simpleName?, .name id ∈ source

/-- An expression of another form has no simple name. -/
theorem nameless_written {e : Expr} (nameless : e.simpleName? = none) :
    Written source e := by
  intro id named
  rw [nameless] at named
  cases named

theorem nameless_gives {e : Expr} (nameless : e.simpleName? = none) :
    Gives source (pure e) (Written source) :=
  .pure (nameless_written nameless)

/-- What the rules that contain themselves give, one nesting further in. -/
structure Level.Written (source : List Token) (level : Level) : Prop where
  test : Gives source level.test (Grammar.Written source)
  disjunction : Gives source level.disjunction (Grammar.Written source)
  operand : Gives source level.operand (Grammar.Written source)
  factor : Gives source level.factor (Grammar.Written source)

section Rules

variable {level : Level}

/-! ### Lists of expressions -/

theorem namedTest_gives (inner : level.Written source) :
    Gives source (namedTest level) (Written source) := by
  refine .after fun named => .ite ?_ inner.test
  exact .after fun _ => .after fun _ => .after fun _ => nameless_gives rfl

theorem starred_gives (level : Level) : Gives source (starred level) (Written source) :=
  .after fun _ => .after fun _ => nameless_gives rfl

theorem starOrNamed_gives (inner : level.Written source) :
    Gives source (starOrNamed level) (Written source) :=
  .after fun _ => .ite (starred_gives level) (namedTest_gives inner)

theorem tupleOf_written {items : List Expr × Bool} (written : ∀ item ∈ items.1, Written source item) :
    Written source (tupleOf items) := by
  rw [tupleOf.eq_def]
  split
  · exact written _ List.mem_cons_self
  · exact nameless_written rfl

/-! ### Atoms -/

theorem yielded_gives (level : Level) : Gives source (yielded level) (Written source) := by
  refine .after fun _ => .after fun delegated => .ite ?_ ?_
  · exact .after fun _ => nameless_gives rfl
  · refine .after fun valued => .ite ?_ (nameless_gives rfl)
    exact .after fun _ => nameless_gives rfl

/-- A single item in parentheses stands for itself. -/
theorem parenthesised_gives (inner : level.Written source) :
    Gives source (parenthesised level) (Written source) := by
  refine .after fun empty => .ite (nameless_gives rfl) (.after fun yields => .ite ?_ ?_)
  · exact (yielded_gives level).bind fun value written => .after fun _ => .pure written
  · refine (commaList_gives (starOrNamed_gives inner)).bind fun items written => ?_
    have single : Gives source (do
        if (items.1.length = 1 && !items.2) && (← atLoop) then
          comprehension level
          sign ")"
          return .dynamic
        else
          sign ")"
          return tupleOf items) (Written source) := by
      refine .after fun loops => .ite ?_ ?_
      · exact .after fun _ => .after fun _ => nameless_gives rfl
      · exact .after fun _ => .pure (tupleOf_written written)
    exact .ite (.after fun _ => single) single

theorem listDisplay_gives (level : Level) : Gives source (listDisplay level) (Written source) := by
  refine .after fun empty => .ite (nameless_gives rfl) (.after fun items => .after fun loops => .ite ?_ ?_)
  · exact .after fun _ => .after fun _ => nameless_gives rfl
  · exact .after fun _ => nameless_gives rfl

theorem dictRest_gives (level : Level) (first : Option Expr) :
    Gives source (dictRest level first) (Written source) :=
  .after fun _ => .after fun _ => .after fun _ => nameless_gives rfl

theorem setRest_gives (level : Level) : Gives source (setRest level) (Written source) := by
  refine .after fun more => .ite (.after fun goesOn => .ite ?_ ?_) ?_
  · exact .after fun _ => .after fun _ => nameless_gives rfl
  · exact .after fun _ => nameless_gives rfl
  · exact .after fun _ => nameless_gives rfl

/-- Braces hold a dictionary or a set, and neither has a name. -/
theorem braced_gives (level : Level) : Gives source (braced level) (Written source) := by
  have comprehended : Gives source (do comprehension level; sign "\x7d"; return .dynamic)
      (Written source) := .after fun _ => .after fun _ => nameless_gives rfl
  refine .after fun empty => .ite (nameless_gives rfl) (.after fun unpacked => .ite ?_ ?_)
  · exact .after fun first => dictRest_gives level first
  · refine .after fun starred => .ite (.after fun _ => setRest_gives level) ?_
    refine .after fun named => .after fun first => .after fun keyed => .ite ?_ ?_
    · refine .after fun _ => .after fun _ => .after fun loops => .ite comprehended ?_
      exact dictRest_gives level (some first)
    · exact .after fun loops => .ite comprehended (setRest_gives level)

theorem joinTexts?_nameless {level : Level} {parts : List (TextPrefix × List Char)} {e : Expr}
    (joins : joinTexts? level parts = some e) : e.simpleName? = none := by
  rw [joinTexts?] at joins
  grind [Expr.simpleName?]

theorem textLiteral_gives (level : Level) : Gives source (textLiteral level) (Written source) := by
  refine .after fun parts => .ite (.failure _) ?_
  split
  · next e joined => exact nameless_gives (joinTexts?_nameless joined)
  · exact .failure _

theorem atom_gives (inner : level.Written source) : Gives source (atom level) (Written source) := by
  refine upcoming_gives.bind fun ahead within => ?_
  split
  · exact .failure _
  · next id rest =>
      refine .after fun _ => .pure fun name named => ?_
      obtain rfl := Option.some.inj named
      exact within.subset List.mem_cons_self
  · exact textLiteral_gives level
  · split
    · exact .after fun _ => nameless_gives rfl
    · refine .after fun _ => .ite (parenthesised_gives inner) (.after fun _ => .ite ?_ ?_)
      · exact listDisplay_gives level
      · exact .after fun _ => .ite (braced_gives level) (.failure _)

/-! ### Operators -/

/-- What may follow an atom has a name only if it is an attribute. -/
def Trailer.Written (source : List Token) : Trailer → Prop
  | .attribute attr => .name attr ∈ source
  | _ => True

theorem apply_written {e : Expr} {trailer : Trailer} (written : trailer.Written source) :
    Grammar.Written source (trailer.apply e) := by
  cases trailer with
  | call parts => exact nameless_written rfl
  | subscript => exact nameless_written rfl
  | «attribute» attr =>
      intro id named
      exact Option.some.inj named ▸ written

theorem foldl_apply_written {first : Expr} {trailers : List Trailer}
    (written : Grammar.Written source first)
    (others : ∀ trailer ∈ trailers, trailer.Written source) :
    Grammar.Written source (trailers.foldl Trailer.apply first) := by
  induction trailers generalizing first with
  | nil => exact written
  | cons trailer rest ih =>
      obtain ⟨here, later⟩ := List.forall_mem_cons.1 others
      exact ih (apply_written here) later

theorem primary_gives (inner : level.Written source) :
    Gives source (primary level) (Written source) := by
  refine (atom_gives inner).bind fun first written => ?_
  refine .bind (?_ : Gives source _ fun trailers => ∀ trailer ∈ trailers, trailer.Written source)
    fun trailers others => .pure (foldl_apply_written written others)
  refine many_gives (.after fun called => .ite ?_ (.after fun subscripted => .ite ?_ ?_))
  · exact .after fun _ => .some trivial
  · exact .after fun _ => .some trivial
  · refine .after fun dotted => .ite ?_ .none
    exact identifier_gives.bind fun attr there => .some there

theorem awaitable_gives (inner : level.Written source) :
    Gives source (awaitable level) (Written source) :=
  .after fun _ => .ite (.after fun _ => nameless_gives rfl) (primary_gives inner)

theorem power_gives (inner : level.Written source) : Gives source (power level) (Written source) := by
  refine (awaitable_gives inner).bind fun base written => .after fun raised => ?_
  exact .ite (.after fun _ => nameless_gives rfl) (.pure written)

theorem factor_gives (inner : level.Written source) :
    Gives source (factor level) (Written source) :=
  .after fun _ => .ite (.after fun _ => nameless_gives rfl) (power_gives inner)

/-- An operand alone stands for itself, and operands that are joined have no name. -/
theorem leftAssoc_gives {ops : List (String × BinaryOp)} {reader : Parse Expr}
    (gives : Gives source reader (Written source)) :
    Gives source (leftAssoc ops reader) (Written source) := by
  refine gives.bind fun first written => .after fun others => .pure ?_
  induction others generalizing first with
  | nil => exact written
  | cons other rest ih => exact ih (.binary other.1 first other.2) (nameless_written rfl)

theorem operand_gives (inner : level.Written source) :
    Gives source (operand level) (Written source) := by
  -- the three ranks of bit operators, then shifts, sums and products
  refine leftAssoc_gives (leftAssoc_gives (leftAssoc_gives ?_))
  exact leftAssoc_gives (leftAssoc_gives (leftAssoc_gives (factor_gives inner)))

theorem joinedBy_gives {mark : Parse Bool} {reader : Parse Expr}
    (gives : Gives source reader (Written source)) :
    Gives source (joinedBy mark reader) (Written source) := by
  refine gives.bind fun first written => .after fun others => .pure ?_
  split
  · exact written
  · exact nameless_written rfl

theorem negation_gives (inner : level.Written source) :
    Gives source (negation level) (Written source) := by
  refine .after fun negations => ?_
  refine (joinedBy_gives (operand_gives inner)).bind fun e written => .pure ?_
  split
  · exact written
  · exact nameless_written rfl

theorem disjunction_gives (inner : level.Written source) :
    Gives source (disjunction level) (Written source) :=
  joinedBy_gives (joinedBy_gives (negation_gives inner))

theorem test_gives (inner : level.Written source) : Gives source (test level) (Written source) := by
  refine .after fun abstracts => .ite ?_ ?_
  · exact .after fun _ => .after fun _ => .after fun _ => nameless_gives rfl
  · refine (disjunction_gives inner).bind fun e written => .after fun conditional => ?_
    refine .ite ?_ (.pure written)
    exact .after fun _ => .after fun _ => .after fun _ => nameless_gives rfl

/-! ### Arguments -/

/-- The value of a positional argument is written among the tokens. -/
def Argument.Written (source : List Token) : Argument → Prop
  | .positional value => Grammar.Written source value
  | .keyword _ _ => True

theorem argument_gives (inner : level.Written source) :
    Gives source (argument level) (Argument.Written source) := by
  refine .after fun ahead => ?_
  split
  · exact .after fun _ => .after fun _ => .pure (nameless_written rfl)
  · exact .after fun _ => .after fun _ => .pure trivial
  · exact .after fun _ => .after fun _ => .after fun _ => .pure trivial
  · refine (namedTest_gives inner).bind fun value written => .after fun loops => .ite ?_ ?_
    · exact .after fun _ => .pure (nameless_written rfl)
    · exact .pure written

/-- The positional arguments of a call are those that it was given. -/
theorem arrange?_written {func : Expr} {args : List Expr} {keywords : List (Option String × Expr)}
    {given : List Argument} {call : Call} (written : ∀ arg ∈ args, Written source arg)
    (others : ∀ argument ∈ given, argument.Written source)
    (arranged : arrange? func args keywords given = some call) :
    ∀ arg ∈ call.args, Written source arg := by
  induction given generalizing args keywords with
  | nil =>
      obtain rfl := Option.some.inj arranged
      intro arg member
      exact written arg (List.mem_reverse.1 member)
  | cons argument rest ih =>
      obtain ⟨here, later⟩ := List.forall_mem_cons.1 others
      cases argument with
      | positional value =>
          rw [arrange?, Option.ite_none_left_eq_some, Option.ite_none_left_eq_some] at arranged
          exact ih (List.forall_mem_cons.2 ⟨here, written⟩) later arranged.2.2
      | keyword name value =>
          rw [arrange?, Option.ite_none_left_eq_some] at arranged
          exact ih written later arranged.2

theorem callArguments_gives (inner : level.Written source) (func : Expr) :
    Gives source (callArguments level func) fun call => ∀ arg ∈ call.args, Written source arg := by
  refine .bind (?_ : Gives source _ fun given => ∀ argument ∈ given, argument.Written source)
    fun given written => .after fun _ => ?_
  · refine many_gives (.after fun closes => .ite .none ?_)
    refine (argument_gives inner).bind fun item written => .after fun last => .ite ?_ ?_
    · exact .some written
    · exact .after fun _ => .some written
  · split
    · next call arranged => exact .pure (arrange?_written (List.forall_mem_nil _) written arranged)
    · exact .failure _

end Rules

/-- The grammar gives nothing else, however deep a text may nest. -/
theorem level_written (source : List Token) (depth : Nat) : (level depth).Written source := by
  induction depth with
  | zero => exact ⟨.failure _, .failure _, .failure _, .failure _⟩
  | succ depth ih =>
      exact ⟨test_gives ih, disjunction_gives ih, operand_gives ih, factor_gives ih⟩

end RouteAtlas.Python.Grammar
