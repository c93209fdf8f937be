/-
Module: RouteAtlas.Python.Grammar.Statement
Layer: Python
Purpose: The grammar of statements and modules. Targets of assignments and the places of `return`,
  `break` and the like are not checked: that is work of later stages of a compiler.
Trusted boundary: none
Main exports: statementLine, suite, compound, level, moduleBody
-/
import RouteAtlas.Python.Grammar.Pattern

namespace RouteAtlas.Python.Grammar

/-- The operators of augmented assignments. -/
def augmentedSigns : List String :=
  ["+=", "-=", "*=", "/=", "//=", "%=", "@=", "&=", "|=", "^=", "<<=", ">>=", "**="]

/-- Whether an augmented assignment goes on here. -/
def atAugmented : Parse Bool :=
  nextIs fun token =>
    match token with
    | .sign text => augmentedSigns.contains text
    | _ => false

/-- An expression, or an assignment of one of the three kinds. Only a single target without a star
can be annotated. -/
def expressionStatement (level : Level) : Parse Stmt := do
  let items ← commaList startsItem (starOrTest level)
  let first := tupleOf items
  let single := items.1.length = 1 && !items.2 && !items.1.any isStarred
  if single && (← atSign ":") then
    skip
    let _ ← level.test
    if ← acceptSign "=" then return .annotated first (some (← assigned level))
    else return .annotated first none
  else if ← atAugmented then
    skip
    return .augmented first (← assigned level)
  else
    let values ← many (announced (acceptSign "=") (assigned level))
    match values.getLast? with
    | none => return .expression first
    | some value => return .assign (first :: values.dropLast) value

/-- A dotted name. -/
def dottedName : Parse String := do
  let first ← identifier
  let others ← many (announced (acceptSign ".") identifier)
  return String.intercalate "." (first :: others)

/-- A name and what it is called here. -/
def importAlias (name : Parse String) : Parse Alias := do
  let name ← name
  if ← acceptWord "as" then return ⟨name, some (← identifier)⟩ else return ⟨name, none⟩

/-- The dots before the module name of a relative import. -/
def importLevel : Parse Nat := do
  let dots ← many do
    if ← acceptSign "." then return some 1
    else if ← acceptSign "..." then return some 3
    else return none
  return dots.foldr (· + ·) 0

/-- The names of a `from` import. -/
def importedNames : Parse (List Alias) := do
  if ← acceptSign "*" then return [⟨"*", none⟩]
  else if ← acceptSign "(" then
    let names ← commaList (fun token => token matches .name _) (importAlias identifier)
    sign ")"
    return names.1
  else strictCommaList (importAlias identifier)

/-- An import statement that names the things it imports. -/
def fromImport : Parse Stmt := do
  word "from"
  let level ← importLevel
  let named ← nextIs fun token => token matches .name _
  let module ← if named then some <$> dottedName else pure none
  if level = 0 && module.isNone then failure
  word "import"
  return .importsFrom module level (← importedNames)

/-- The type parameters of a definition. -/
def typeParameters (level : Level) : Parse Unit := do
  if ← acceptSign "[" then
    let _ ← commaList (fun token => startsParameter token && token != .sign "/") do
      if ← acceptOneOf ["*", "**"] then let _ ← identifier
      else
        let _ ← identifier
        if ← acceptSign ":" then let _ ← level.test
    sign "]"

/-- A statement that fits on a line. -/
def smallStatement (level : Level) : Parse Stmt := do
  match ← upcoming with
  | .word text :: _ =>
      match text with
      | "pass" | "break" | "continue" =>
          skip
          return .simple
      | "del" =>
          skip
          let _ ← commaList startsItem (starOrOperand level)
          return .simple
      | "return" =>
          skip
          if ← nextIs startsItem then return .returned (some (← testList level))
          else return .returned none
      | "yield" => return .expression (← yielded level)
      | "raise" =>
          skip
          if ← nextIs startsTest then
            let _ ← level.test
            if ← acceptWord "from" then let _ ← level.test
          return .simple
      | "import" =>
          skip
          return .imports (← strictCommaList (importAlias dottedName))
      | "from" => fromImport
      | "global" | "nonlocal" =>
          skip
          let _ ← strictCommaList identifier
          return .simple
      | "assert" =>
          skip
          let _ ← level.test
          if ← acceptSign "," then let _ ← level.test
          return .simple
      | "type" =>
          skip
          let _ ← identifier
          typeParameters level
          sign "="
          let _ ← level.test
          return .simple
      | _ => expressionStatement level
  | _ => expressionStatement level

/-- Statements with semicolons between them, up to the end of the line. -/
def statementLine (level : Level) : Parse (List Stmt) := do
  let first ← smallStatement level
  let others ← many do
    match ← upcoming with
    | .sign ";" :: .newline :: _ => return none
    | .sign ";" :: _ =>
        skip
        return some (← smallStatement level)
    | _ => return none
  let _ ← acceptSign ";"
  expect .newline
  return first :: others

/-- Whether a statement with blocks comes next. -/
def startsCompound : Token → Bool
  | .word text =>
      ["match", "if", "while", "for", "try", "with", "def", "class", "async"].contains text
  | .sign text => text == "@"
  | _ => false

/-- The statements of a block whose indentation has been read. -/
def statements (level : Level) : Parse (List Stmt) := do
  let groups ← many do
    if ← nextIs startsCompound then return some [← level.compound]
    else if ← nextIs (· == .dedent) then return none
    else return some (← statementLine level)
  if groups.isEmpty then failure else return groups.flatten

/-- The block after a colon: indented lines, or the rest of the line. -/
def suite (level : Level) : Parse (List Stmt) := do
  sign ":"
  if ← accept .newline then
    expect .indent
    let body ← statements level
    expect .dedent
    return body
  else statementLine level

/-- The block after a word such as `else`, empty if the word does not come next. -/
def optionalSuite (level : Level) (text : String) : Parse (List Stmt) := do
  if ← acceptWord text then suite level else return []

/-- An `if` statement. Each `elif` is an `if` in the other branch of the one before it. -/
def ifStatement (level : Level) : Parse Stmt := do
  word "if"
  let _ ← namedTest level
  let body ← suite level
  let others ← many do
    if ← acceptWord "elif" then
      let _ ← namedTest level
      return some (← suite level)
    else return none
  let last ← optionalSuite level "else"
  return .branch body (others.foldr (fun block orElse => [.branch block orElse]) last)

/-- A `for` statement. -/
def forStatement (level : Level) : Parse Stmt := do
  word "for"
  let _ ← targetList level
  word "in"
  let _ ← testList level
  let body ← suite level
  return .loop body (← optionalSuite level "else")

/-- A `while` statement. -/
def whileStatement (level : Level) : Parse Stmt := do
  word "while"
  let _ ← namedTest level
  let body ← suite level
  return .loop body (← optionalSuite level "else")

/-- A context manager and the target that it is bound to. -/
def contextItem (level : Level) : Parse Unit := do
  let _ ← level.test
  if ← acceptWord "as" then let _ ← level.operand

/-- Context managers in parentheses, right before the colon. -/
def groupedContexts (level : Level) : Parse Unit := do
  sign "("
  let _ ← commaList startsTest (contextItem level)
  sign ")"
  if ← atSign ":" then return () else failure

/-- A `with` statement. A parenthesis first is tried as a group of context managers. -/
def withStatement (level : Level) : Parse Stmt := do
  word "with"
  groupedContexts level <|> (do let _ ← strictCommaList (contextItem level))
  return .context (← suite level)

/-- One handler of a `try` statement. -/
def handler (level : Level) (grouped : Bool) : Parse (List Stmt) := do
  word "except"
  if grouped then sign "*"
  if grouped || !(← atSign ":") then
    let _ ← level.test
    if ← acceptWord "as" then let _ ← identifier
  suite level

/-- A `try` statement: handlers of one kind, or a final block, or both. -/
def tryStatement (level : Level) : Parse Stmt := do
  word "try"
  let body ← suite level
  let grouped :=
    match ← upcoming with
    | .word "except" :: .sign "*" :: _ => true
    | _ => false
  let handlers ← many do
    if ← atWord "except" then return some (← handler level grouped) else return none
  let orElse ← if handlers.isEmpty then pure [] else optionalSuite level "else"
  let final ← optionalSuite level "finally"
  if handlers.isEmpty && final.isEmpty then failure
  return .guarded grouped body handlers orElse final

/-- A `match` statement. -/
def matchStatement (level : Level) : Parse Stmt := do
  word "match"
  let _ ← commaList startsItem (starOrNamed level)
  sign ":"
  expect .newline
  expect .indent
  let bodies ← many do
    if ← acceptWord "case" then
      patterns level
      if ← acceptWord "if" then let _ ← namedTest level
      return some (← suite level)
    else return none
  expect .dedent
  if bodies.isEmpty then failure else return .cases bodies

/-- A function definition after its decorators. -/
def functionStatement (level : Level) (decorators : List Expr) : Parse Stmt := do
  word "def"
  let name ← identifier
  typeParameters level
  sign "("
  parameters level true
  sign ")"
  if ← acceptSign "->" then let _ ← level.test
  return .function name decorators (← suite level)

/-- A class definition after its decorators. -/
def classStatement (level : Level) : Parse Stmt := do
  word "class"
  let name ← identifier
  typeParameters level
  let bases ← if ← acceptSign "(" then (·.args) <$> callArguments level .dynamic else pure []
  return .class_ name bases (← suite level)

/-- A definition with its decorators. -/
def definition (level : Level) : Parse Stmt := do
  let decorators ← many do
    if ← acceptSign "@" then
      let decorator ← namedTest level
      expect .newline
      return some decorator
    else return none
  if ← acceptWord "async" then functionStatement level decorators
  else if ← atWord "def" then functionStatement level decorators
  else classStatement level

/-- A statement with blocks. -/
def compound (level : Level) : Parse Stmt := do
  match ← upcoming with
  | .word "match" :: _ => matchStatement level
  | .word "if" :: _ => ifStatement level
  | .word "while" :: _ => whileStatement level
  | .word "for" :: _ => forStatement level
  | .word "try" :: _ => tryStatement level
  | .word "with" :: _ => withStatement level
  | .word "async" :: .word "for" :: _ =>
      skip
      forStatement level
  | .word "async" :: .word "with" :: _ =>
      skip
      withStatement level
  | _ => definition level

/-- The grammar for texts that nest at most `depth` deep. -/
def level (depth : Nat) : Level :=
  match depth with
  | 0 => .bottom
  | depth + 1 =>
      let inner := level depth
      { test := test inner
        disjunction := disjunction inner
        operand := operand inner
        factor := factor inner
        pattern := pattern inner
        compound := compound inner }

/-- The statements of a module. Empty lines between them do not count. -/
def moduleBody (level : Level) : Parse (List Stmt) := do
  let groups ← many do
    match ← upcoming with
    | [] => return none
    | .newline :: _ =>
        skip
        return some []
    | token :: _ =>
        if startsCompound token then return some [← level.compound]
        else return some (← statementLine level)
  if (← upcoming).isEmpty then return groups.flatten else failure

end RouteAtlas.Python.Grammar
