/-
Module: RouteAtlas.Proofs.Python.Reading
Layer: Proofs
Purpose: What a source text must contain for its syntax tree to import a module, or to have a class with
  a base of some name. What the readers of the grammar give is followed from the tokens upwards: a dotted
  name begins with a name among the tokens, an import statement names modules by dotted names, and no
  other statement imports; the bases of a class are arguments of a call. A name among the tokens stands
  in the text, so the text mentions the top package of every module that it imports, and the simple
  name of every base.
Trusted boundary: none
Main exports: Spelled, NamedIn, Sourced, dottedName_gives, smallStatement_gives, compound_gives,
  moduleBody_gives, parse_sourced, parse_mentions, parse_writes
-/
import RouteAtlas.Proofs.Python.Imports
import RouteAtlas.Proofs.Python.Lexing
import RouteAtlas.Proofs.Python.SimpleNames
import RouteAtlas.Python.Parser

namespace RouteAtlas.Python

namespace Grammar

open Parse (Gives)

variable {source : List Token}

/-! ### Import statements -/

/-- A dotted name begins with a name among the tokens, at least up to its first dot. -/
def Spelled (source : List Token) (name : String) : Prop :=
  ∃ id, .name id ∈ source ∧ (Text.firstPiece '.' name).toList <+: id.toList

theorem dottedName_gives : Gives source dottedName (Spelled source) := by
  refine identifier_gives.bind fun first there => .after fun others => .pure ?_
  exact ⟨first, there, Text.firstPiece_intercalate_prefix '.' first others⟩

theorem importAlias_gives {name : Parse String} {property : String → Prop}
    (gives : Gives source name property) :
    Gives source (importAlias name) fun binding => property binding.name := by
  refine gives.bind fun name holds => .after fun renamed => .ite ?_ (.pure holds)
  exact .after fun _ => .pure holds

/-- The modules that a statement imports are spelled among the tokens. -/
def NamedIn (source : List Token) (stmt : Stmt) : Prop :=
  ∀ module, stmt.Imports module → Spelled source module

/-- What a statement takes from elsewhere is spelled among the tokens: the modules that it imports, and
the bases of the class that it defines. -/
structure Sourced (source : List Token) (stmt : Stmt) : Prop where
  imports : NamedIn source stmt
  bases : ∀ decl ∈ stmt.asClass?, ∀ base ∈ decl.bases, Written source base

/-- A statement of another form than an import or a class. -/
def Plain : Stmt → Prop
  | .imports _ => False
  | .importsFrom _ _ _ => False
  | .class_ _ _ _ => False
  | _ => True

/-- Such a statement takes nothing from elsewhere. -/
theorem plain_gives {stmt : Stmt} (plain : Plain stmt) :
    Gives source (pure stmt) (Sourced source) := by
  refine .pure ⟨fun module stated => ?_, fun decl declares => ?_⟩
  · cases stated with
    | whole => exact plain.elim
    | members => exact plain.elim
  · cases stmt with
    | class_ name bases body => exact plain.elim
    | _ => cases declares

/-- An import statement defines no class. -/
theorem Sourced.of_import {stmt : Stmt} (named : NamedIn source stmt)
    (defines : stmt.asClass? = none) : Sourced source stmt := by
  refine ⟨named, fun decl declares => ?_⟩
  rw [defines] at declares
  cases declares

theorem wholeImport_gives :
    Gives source (do return .imports (← strictCommaList (importAlias dottedName)))
      (Sourced source) := by
  refine (strictCommaList_gives (importAlias_gives dottedName_gives)).bind fun names spelled => ?_
  refine .pure (.of_import ?_ rfl)
  rintro _ ⟨listed⟩
  exact spelled _ listed

theorem fromImport_gives : Gives source fromImport (Sourced source) := by
  refine .after fun _ => .after fun level => .after fun named => ?_
  have onward : ∀ module : Option String, (∀ name ∈ module, Spelled source name) →
      Gives source (do
        if level = 0 && module.isNone then failure
        word "import"
        return .importsFrom module level (← importedNames)) (Sourced source) := by
    intro module spelled
    have members : Gives source (do
        word "import"
        return .importsFrom module level (← importedNames)) (Sourced source) := by
      refine .after fun _ => .after fun names => .pure (.of_import ?_ rfl)
      rintro _ ⟨listed⟩
      exact spelled _ rfl
    exact .ite (.after fun _ => members) members
  refine .ite ?_ ?_
  · have module : Gives source (some <$> dottedName) fun module =>
        ∀ name ∈ module, Spelled source name :=
      dottedName_gives.bind fun name spelled => .some spelled
    exact module.bind onward
  · exact Gives.none.bind onward

theorem expressionStatement_gives (level : Level) :
    Gives source (expressionStatement level) (Sourced source) := by
  refine .after fun items => .after fun colon => .ite ?_ (.after fun augmented => .ite ?_ ?_)
  · refine .after fun _ => .after fun _ => .after fun valued => ?_
    exact .ite (.after fun _ => plain_gives trivial) (plain_gives trivial)
  · exact .after fun _ => .after fun _ => plain_gives trivial
  · refine .after fun values => ?_
    split
    · exact plain_gives trivial
    · exact plain_gives trivial

/-- A statement on one line takes nothing from elsewhere but what it imports: the case of each word that
begins a statement, and that of the expressions. -/
theorem smallStatement_gives (level : Level) :
    Gives source (smallStatement level) (Sourced source) := by
  refine .after fun ahead => ?_
  split
  · split
    -- `pass`, `break`, `continue`; `del`; `return`; `yield`; `raise`
    case h_1 | h_2 | h_3 => exact .after fun _ => plain_gives trivial
    case h_4 => exact .after fun _ => .after fun _ => plain_gives trivial
    case h_5 =>
      refine .after fun _ => .after fun valued => .ite ?_ (plain_gives trivial)
      exact .after fun _ => plain_gives trivial
    case h_6 => exact .after fun _ => plain_gives trivial
    case h_7 =>
      refine .after fun _ => .after fun raised => .ite ?_ (plain_gives trivial)
      refine .after fun _ => .after fun caused => .ite ?_ (plain_gives trivial)
      exact .after fun _ => plain_gives trivial
    -- `import`; `from`
    case h_8 => exact .after fun _ => wholeImport_gives
    case h_9 => exact fromImport_gives
    -- `global`, `nonlocal`; `assert`; `type`
    case h_10 | h_11 => exact .after fun _ => .after fun _ => plain_gives trivial
    case h_12 =>
      refine .after fun _ => .after fun _ => .after fun explained => ?_
      exact .ite (.after fun _ => plain_gives trivial) (plain_gives trivial)
    case h_13 =>
      refine .after fun _ => .after fun _ => .after fun _ => .after fun _ => ?_
      exact .after fun _ => plain_gives trivial
    case h_14 => exact expressionStatement_gives level
  · exact expressionStatement_gives level

theorem statementLine_gives (level : Level) :
    Gives source (statementLine level) fun stmts => ∀ stmt ∈ stmts, Sourced source stmt := by
  refine (smallStatement_gives level).bind fun first named => ?_
  refine .bind (?_ : Gives source _ fun others => ∀ stmt ∈ others, Sourced source stmt)
    fun others rest => ?_
  · refine many_gives (.after fun ahead => ?_)
    split
    · exact .none
    · exact .after fun _ => (smallStatement_gives level).bind fun stmt named => .some named
    · exact .none
  · exact .after fun _ => .after fun _ => .pure (List.forall_mem_cons.2 ⟨named, rest⟩)

/-! ### Statements with blocks -/

theorem ifStatement_gives (level : Level) : Gives source (ifStatement level) (Sourced source) :=
  .after fun _ => .after fun _ => .after fun _ => .after fun _ => .after fun _ => plain_gives trivial

theorem forStatement_gives (level : Level) : Gives source (forStatement level) (Sourced source) :=
  .after fun _ => .after fun _ => .after fun _ => .after fun _ => .after fun _ => .after fun _ =>
    plain_gives trivial

theorem whileStatement_gives (level : Level) :
    Gives source (whileStatement level) (Sourced source) :=
  .after fun _ => .after fun _ => .after fun _ => .after fun _ => plain_gives trivial

theorem withStatement_gives (level : Level) :
    Gives source (withStatement level) (Sourced source) :=
  .after fun _ => .after fun _ => .after fun _ => plain_gives trivial

theorem tryStatement_gives (level : Level) : Gives source (tryStatement level) (Sourced source) := by
  refine .after fun _ => .after fun _ => .after fun _ => .after fun handlers => ?_
  refine .ite (.after fun orElse => .after fun final => ?_) (.after fun orElse => .after fun final => ?_)
  · exact .ite (.after fun _ => plain_gives trivial) (plain_gives trivial)
  · exact .ite (.after fun _ => plain_gives trivial) (plain_gives trivial)

theorem matchStatement_gives (level : Level) :
    Gives source (matchStatement level) (Sourced source) := by
  refine .after fun _ => .after fun _ => .after fun _ => .after fun _ => .after fun _ => ?_
  exact .after fun bodies => .after fun _ => .ite (.failure _) (plain_gives trivial)

theorem functionStatement_gives (level : Level) (decorators : List Expr) :
    Gives source (functionStatement level decorators) (Sourced source) := by
  refine .after fun _ => .after fun _ => .after fun _ => .after fun _ => .after fun _ => ?_
  refine .after fun _ => .after fun annotated => .ite (.after fun _ => ?_) ?_
  · exact .after fun _ => plain_gives trivial
  · exact .after fun _ => plain_gives trivial

/-- The bases of a class are the positional arguments of its header. -/
theorem classStatement_gives {level : Level} (inner : level.Written source) :
    Gives source (classStatement level) (Sourced source) := by
  refine .after fun _ => .after fun name => .after fun _ => .after fun based => ?_
  have onward : ∀ bases : List Expr, (∀ base ∈ bases, Written source base) →
      Gives source (do return .class_ name bases (← suite level)) (Sourced source) := by
    intro bases written
    refine .after fun body => .pure ⟨fun _ imports => (nomatch imports), fun decl declares => ?_⟩
    obtain rfl := Option.some.inj declares
    exact written
  refine .ite ?_ ?_
  · have header : Gives source ((·.args) <$> callArguments level .dynamic) fun bases =>
        ∀ base ∈ bases, Written source base :=
      (callArguments_gives inner .dynamic).bind fun call written => .pure written
    exact header.bind onward
  · exact (Gives.pure (List.forall_mem_nil _)).bind onward

theorem definition_gives {level : Level} (inner : level.Written source) :
    Gives source (definition level) (Sourced source) := by
  refine .after fun decorators => .after fun asynchronous => .ite ?_ (.after fun plain => .ite ?_ ?_)
  · exact functionStatement_gives level decorators
  · exact functionStatement_gives level decorators
  · exact classStatement_gives inner

/-- What is imported or defined in a block does not count for the statement that has the block. -/
theorem compound_gives {level : Level} (inner : level.Written source) :
    Gives source (compound level) (Sourced source) := by
  refine .after fun ahead => ?_
  split
  · exact matchStatement_gives level
  · exact ifStatement_gives level
  · exact whileStatement_gives level
  · exact forStatement_gives level
  · exact tryStatement_gives level
  · exact withStatement_gives level
  · exact .after fun _ => forStatement_gives level
  · exact .after fun _ => withStatement_gives level
  · exact definition_gives inner

theorem level_compound_gives (depth : Nat) :
    Gives source (level depth).compound (Sourced source) := by
  cases depth with
  | zero => exact .failure _
  | succ depth => exact compound_gives (level_written source depth)

/-! ### Modules -/

/-- The statements of a module take nothing from elsewhere but what is spelled among the tokens. -/
theorem moduleBody_gives (depth : Nat) :
    Gives source (moduleBody (level depth)) fun body => ∀ stmt ∈ body, Sourced source stmt := by
  refine .bind (?_ : Gives source _ fun groups => ∀ stmts ∈ groups, ∀ stmt ∈ stmts, Sourced source stmt)
    fun groups named => ?_
  · refine many_gives (.after fun ahead => ?_)
    split
    · exact .none
    · exact .after fun _ => .some (List.forall_mem_nil _)
    · refine .ite ?_ ?_
      · refine (level_compound_gives depth).bind fun stmt named => ?_
        exact .some (List.forall_mem_singleton.2 named)
      · exact (statementLine_gives _).bind fun stmts named => .some named
  · refine .after fun ahead => .ite (.pure fun stmt member => ?_) (.failure _)
    obtain ⟨stmts, listed, there⟩ := List.mem_flatten.1 member
    exact named stmts listed stmt there

end Grammar

open Grammar in
/-- The text of a module has tokens that spell whatever its statements take from elsewhere. -/
theorem parse_sourced {source : String} {body : Module} (parsed : parse source = .ok body) :
    ∃ tokens, tokens? source.toList = some tokens ∧ ∀ stmt ∈ body, Sourced tokens stmt := by
  rw [parse] at parsed
  split at parsed
  · cases parsed
  · next tokens cut =>
      split at parsed
      · next read =>
          obtain rfl := Except.ok.inj parsed
          exact ⟨tokens, cut, moduleBody_gives _ List.suffix_rfl read⟩
      · cases parsed

section Mentions

variable {source : String} {body : Module} {stmt : Stmt}

/-- The text of a module mentions the top package of each module that it imports. -/
theorem parse_mentions {module : String} (parsed : parse source = .ok body) (stated : stmt ∈ body)
    (imports : stmt.Imports module) :
    Text.mentions source (Text.firstPiece '.' module) = true := by
  obtain ⟨tokens, cut, sourced⟩ := parse_sourced parsed
  obtain ⟨id, there, begins⟩ := (sourced stmt stated).imports module imports
  rw [Text.mentions_iff]
  exact begins.isInfix.trans (tokens?_stands cut there).1

/-- The text of a module mentions the simple name of each base of its classes. -/
theorem parse_writes {decl : ClassDecl} {base : Expr} {id : String}
    (parsed : parse source = .ok body) (stated : stmt ∈ body)
    (declares : stmt.asClass? = some decl) (derives : base ∈ decl.bases)
    (named : base.simpleName? = some id) : Text.mentions source id = true := by
  obtain ⟨tokens, cut, sourced⟩ := parse_sourced parsed
  have there := (sourced stmt stated).bases decl declares base derives id named
  rw [Text.mentions_iff]
  exact (tokens?_stands cut there).1

end Mentions

end RouteAtlas.Python
