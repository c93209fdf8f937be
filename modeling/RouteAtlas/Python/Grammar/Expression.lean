/-
Module: RouteAtlas.Python.Grammar.Expression
Layer: Python
Purpose: The grammar of expressions, from atoms to conditional expressions, with displays,
  comprehensions, calls, subscripts, parameter lists and string literals. Each rule yields the
  expression it reads; expressions whose value is not written down yield `Expr.dynamic`.
Trusted boundary: none
Main exports: namedTest, starOrNamed, starOrTest, testList, targetList, callArguments, parameters,
  atom, primary, operand, disjunction, test
-/
import RouteAtlas.Python.Grammar.Basic
import RouteAtlas.Python.Lexer
import RouteAtlas.Python.Formatted

namespace RouteAtlas.Python.Grammar

/-- Whether a named expression `name := value` comes next. -/
def atNamed : Parse Bool := do
  match ← upcoming with
  | .name _ :: .sign ":=" :: _ => return true
  | _ => return false

/-- A test, or a named expression. -/
def namedTest (level : Level) : Parse Expr := do
  if ← atNamed then
    skip
    skip
    let _ ← level.test
    return .dynamic
  else level.test

/-- An operand after a star. -/
def starred (level : Level) : Parse Expr := do
  sign "*"
  return .starred (← level.operand)

/-- A starred operand or a named test. -/
def starOrNamed (level : Level) : Parse Expr := do
  if ← atSign "*" then starred level else namedTest level

/-- A starred operand or a test. -/
def starOrTest (level : Level) : Parse Expr := do
  if ← atSign "*" then starred level else level.test

/-- A starred operand or an operand: what may be assigned in a loop header. -/
def starOrOperand (level : Level) : Parse Expr := do
  if ← atSign "*" then starred level else level.operand

/-- One item stands for itself; several, or one with a comma after it, are a tuple. -/
def tupleOf (items : List Expr × Bool) : Expr :=
  match items with
  | ([item], false) => item
  | (items, _) => .tuple items

/-- Tests with commas between them. -/
def testList (level : Level) : Parse Expr :=
  tupleOf <$> commaList startsItem (starOrTest level)

/-- The targets of a loop. -/
def targetList (level : Level) : Parse Expr :=
  tupleOf <$> commaList startsItem (starOrOperand level)

/-- `yield`, with or without a value. -/
def yielded (level : Level) : Parse Expr := do
  word "yield"
  if ← acceptWord "from" then
    let _ ← level.test
    return .dynamic
  else if ← nextIs startsItem then
    let _ ← testList level
    return .dynamic
  else return .dynamic

/-- The right side of an assignment. -/
def assigned (level : Level) : Parse Expr := do
  if ← atWord "yield" then yielded level else testList level

/-- Whether a comprehension goes on with a loop. -/
def atLoop : Parse Bool := do
  match ← upcoming with
  | .word "for" :: _ => return true
  | .word "async" :: .word "for" :: _ => return true
  | _ => return false

/-- The loops and conditions of a comprehension. -/
def comprehension (level : Level) : Parse Unit := do
  let loops ← many do
    if ← atLoop then
      let _ ← acceptWord "async"
      word "for"
      let _ ← targetList level
      word "in"
      let _ ← level.disjunction
      let _ ← many (announced (acceptWord "if") level.disjunction)
      return some ()
    else return none
  if loops.isEmpty then failure else return ()

/-- One argument of a call: its name if it is a keyword argument, and its value. -/
inductive Argument where
  | positional (value : Expr)
  | keyword (name : Option String) (value : Expr)

/-- Read one argument of a call. -/
def argument (level : Level) : Parse Argument := do
  match ← upcoming with
  | .sign "*" :: _ =>
      skip
      return .positional (.starred (← level.test))
  | .sign "**" :: _ =>
      skip
      return .keyword none (← level.test)
  | .name id :: .sign "=" :: _ =>
      skip
      skip
      return .keyword (some id) (← level.test)
  | _ =>
      let value ← namedTest level
      if ← atLoop then
        comprehension level
        return .positional .dynamic
      else return .positional value

/-- Whether an expression is starred. -/
def isStarred : Expr → Bool
  | .starred _ => true
  | _ => false

/-- Put the arguments of a call into order. A plain positional argument may not follow a keyword
argument, no positional argument may follow an unpacked mapping, and no keyword is given twice. -/
def arrange? (func : Expr) (args : List Expr) (keywords : List (Option String × Expr)) :
    List Argument → Option Call
  | [] => some ⟨func, args.reverse, keywords.reverse⟩
  | .positional value :: rest =>
      if !keywords.isEmpty && !isStarred value then none
      else if keywords.any (·.1.isNone) then none
      else arrange? func (value :: args) keywords rest
  | .keyword name value :: rest =>
      if name.isSome && keywords.any (·.1 == name) then none
      else arrange? func args ((name, value) :: keywords) rest

/-- The arguments of a call, up to the closing parenthesis. -/
def callArguments (level : Level) (func : Expr) : Parse Call := do
  let given ← many do
    if ← atSign ")" then return none
    else
      let item ← argument level
      if ← atSign ")" then return some item
      else
        sign ","
        return some item
  sign ")"
  match arrange? func [] [] given with
  | some call => return call
  | none => failure

/-- The end of a slice: what follows its first colon. -/
def sliceEnd (level : Level) : Parse Unit := do
  sign ":"
  if ← nextIs startsTest then let _ ← level.test
  if ← acceptSign ":" then
    if ← nextIs startsTest then let _ ← level.test

/-- An item of a subscript: an expression or a slice. -/
def subscriptItem (level : Level) : Parse Unit := do
  if ← atSign ":" then sliceEnd level
  else if ← atNamed then let _ ← namedTest level
  else if ← atSign "*" then let _ ← starred level
  else
    let _ ← level.test
    if ← atSign ":" then sliceEnd level

/-- The items of a subscript, up to the closing bracket. -/
def subscript (level : Level) : Parse Unit := do
  let _ ← commaList (fun token => startsItem token || token == .sign ":") (subscriptItem level)
  sign "]"

/-- The rest of a list display whose bracket is open. -/
def listDisplay (level : Level) : Parse Expr := do
  if ← acceptSign "]" then return .list []
  let items ← commaList startsItem (starOrNamed level)
  if items.1.length = 1 && !items.2 && (← atLoop) then
    comprehension level
    sign "]"
    return .dynamic
  else
    sign "]"
    return .list items.1

/-- The rest of a parenthesised expression or tuple. A single starred item needs a comma. -/
def parenthesised (level : Level) : Parse Expr := do
  if ← acceptSign ")" then return .tuple []
  if ← atWord "yield" then
    let value ← yielded level
    sign ")"
    return value
  let items ← commaList startsItem (starOrNamed level)
  let single := items.1.length = 1 && !items.2
  if single && items.1.any isStarred then failure
  if single && (← atLoop) then
    comprehension level
    sign ")"
    return .dynamic
  sign ")"
  return tupleOf items

/-- An entry of a dictionary display; an unpacked mapping has no key. -/
def dictEntry (level : Level) : Parse (Option Expr) := do
  if ← acceptSign "**" then
    let _ ← level.operand
    return none
  else
    let key ← level.test
    sign ":"
    let _ ← level.test
    return some key

/-- The rest of a dictionary display, whose first entry has been read. -/
def dictRest (level : Level) (first : Option Expr) : Parse Expr := do
  let others ← many do
    match ← upcoming with
    | .sign "," :: token :: _ =>
        if startsTest token || token == .sign "**" then
          skip
          return some (← dictEntry level)
        else return none
    | _ => return none
  let _ ← acceptSign ","
  sign "\x7d"
  return .dict ((first :: others).reduceOption)

/-- The rest of a set display, whose first item has been read. -/
def setRest (level : Level) : Parse Expr := do
  if ← acceptSign "," then
    if ← nextIs startsItem then
      let _ ← commaList startsItem (starOrNamed level)
  sign "\x7d"
  return .dynamic

/-- The rest of a dictionary or set display whose brace is open. -/
def braced (level : Level) : Parse Expr := do
  if ← acceptSign "\x7d" then return .dict []
  if ← atSign "**" then dictRest level (← dictEntry level)
  else if ← atSign "*" then
    let _ ← starred level
    setRest level
  else
    let named ← atNamed
    let first ← namedTest level
    if !named && (← atSign ":") then
      skip
      let _ ← level.test
      if ← atLoop then
        comprehension level
        sign "\x7d"
        return .dynamic
      else dictRest level (some first)
    else if ← atLoop then
      comprehension level
      sign "\x7d"
      return .dynamic
    else setRest level

/-- Whether every expression inside a formatted literal is legal. -/
def isLegalFormatted (level : Level) (marks : TextPrefix) (raw : List Char) : Bool :=
  match fieldSources? marks raw with
  | none => false
  | some sources =>
      sources.all fun source =>
        match tokens? (['('] ++ source ++ [')']) with
        | none => false
        | some tokens =>
            match (testList level).run tokens with
            | some (_, rest) => rest.all (· == .newline)
            | none => false

/-- String literals side by side are one literal. Bytes do not mix with text; the whole is a text only
if no part is bytes or formatted. -/
def joinTexts? (level : Level) (parts : List (TextPrefix × List Char)) : Option Expr :=
  let bytes := parts.filter (·.1.bytes)
  if !bytes.isEmpty then
    if bytes.length = parts.length && parts.all (fun part => isLegalBytes part.1 part.2) then
      some (.constant .other)
    else none
  else
    let plain := parts.filter (!·.1.formatted)
    let formatted := parts.filter (·.1.formatted)
    match plain.mapM (fun part => literalText? part.1 part.2) with
    | none => none
    | some texts =>
        if formatted.isEmpty then some (.constant (.text (String.ofList texts.flatten)))
        else if formatted.all (fun part => isLegalFormatted level part.1 part.2) then some .dynamic
        else none

/-- String literals side by side. -/
def textLiteral (level : Level) : Parse Expr := do
  let parts ← many do
    match ← upcoming with
    | .text marks raw :: _ =>
        skip
        return some (marks, raw)
    | _ => return none
  if parts.isEmpty then failure
  else
    match joinTexts? level parts with
    | some e => return e
    | none => failure

/-- The reserved words and signs that are constants. -/
def constant? : Token → Option Constant
  | .word "True" => some (.bool true)
  | .word "False" => some (.bool false)
  | .word "None" => some .other
  | .sign "..." => some .other
  | .int value => some (.int value)
  | .inexact => some .other
  | _ => none

/-- An atom: a name, a literal, or an expression in brackets. -/
def atom (level : Level) : Parse Expr := do
  match ← upcoming with
  | [] => failure
  | .name id :: _ =>
      skip
      return .name id
  | .text _ _ :: _ => textLiteral level
  | token :: _ =>
      match constant? token with
      | some value =>
          skip
          return .constant value
      | none =>
          if ← acceptSign "(" then parenthesised level
          else if ← acceptSign "[" then listDisplay level
          else if ← acceptSign "\x7b" then braced level
          else failure

/-- What may follow an atom: calls, subscripts and attributes. -/
inductive Trailer where
  | call (parts : Call)
  | subscript
  | attribute (attr : String)

/-- Apply a trailer to the expression before it. -/
def Trailer.apply (e : Expr) : Trailer → Expr
  | .call parts => .call e parts.args parts.keywords
  | .subscript => .dynamic
  | .attribute attr => .attribute e attr

/-- An atom with its trailers. -/
def primary (level : Level) : Parse Expr := do
  let first ← atom level
  let trailers ← many do
    if ← acceptSign "(" then return some (.call (← callArguments level .dynamic))
    else if ← acceptSign "[" then
      subscript level
      return some .subscript
    else if ← acceptSign "." then return some (.attribute (← identifier))
    else return none
  return trailers.foldl Trailer.apply first

/-- A primary, awaited or not. -/
def awaitable (level : Level) : Parse Expr := do
  if ← acceptWord "await" then
    let _ ← primary level
    return .dynamic
  else primary level

/-- A power: the exponent may have a sign of its own. -/
def power (level : Level) : Parse Expr := do
  let base ← awaitable level
  if ← acceptSign "**" then return .binary .pow base (← level.factor)
  else return base

/-- An operand of a product, with signs before it or not. -/
def factor (level : Level) : Parse Expr := do
  if ← acceptOneOf ["+", "-", "~"] then
    let _ ← level.factor
    return .dynamic
  else power level

/-- An operand of a comparison: sums, products, shifts and bit operations. -/
def operand (level : Level) : Parse Expr :=
  let product := leftAssoc
    [("*", .mul), ("/", .div), ("//", .floorDiv), ("%", .mod), ("@", .matMul)] (factor level)
  let sum := leftAssoc [("+", .add), ("-", .sub)] product
  let shift := leftAssoc [("<<", .shiftLeft), (">>", .shiftRight)] sum
  leftAssoc [("|", .bitOr)] (leftAssoc [("^", .bitXor)] (leftAssoc [("&", .bitAnd)] shift))

/-- Pass over a comparison operator if one comes next. -/
def acceptComparison : Parse Bool := do
  match ← upcoming with
  | .sign _ :: _ => acceptOneOf ["==", "!=", "<", "<=", ">", ">="]
  | .word "in" :: _ =>
      skip
      return true
  | .word "not" :: .word "in" :: _ =>
      skip
      skip
      return true
  | .word "is" :: .word "not" :: _ =>
      skip
      skip
      return true
  | .word "is" :: _ =>
      skip
      return true
  | _ => return false

/-- An operand alone stands for itself; joined with others it has no value of its own. -/
def joinedBy (mark : Parse Bool) (item : Parse Expr) : Parse Expr := do
  let first ← item
  let others ← many (announced mark item)
  return if others.isEmpty then first else .dynamic

/-- A comparison, negated any number of times. -/
def negation (level : Level) : Parse Expr := do
  let negations ← many (announced (acceptWord "not") (pure ()))
  let e ← joinedBy acceptComparison (operand level)
  return if negations.isEmpty then e else .dynamic

/-- Operands of `and` and `or`. -/
def disjunction (level : Level) : Parse Expr :=
  joinedBy (acceptWord "or") (joinedBy (acceptWord "and") (negation level))

/-- A parameter as it is written in a list of parameters. -/
inductive Parameter where
  | plain (name : String) (hasDefault : Bool)
  | slash
  | star (name : Option String)
  | doubleStar (name : Option String)

/-- The names of a list of parameters. -/
def parameterNames (params : List Parameter) : List String :=
  params.filterMap fun param =>
    match param with
    | .plain name _ => some name
    | .slash => none
    | .star name => name
    | .doubleStar name => name

/-- Where in a list of parameters one may stand: before a slash (`seen` parameters have been read),
after it, after a star (`bare` while a bare star waits for a name), or after everything. -/
inductive ParameterPlace where
  | first (seen : Bool)
  | middle
  | last (bare : Bool)
  | done

/-- Whether the kinds of the parameters are in a legal order. A bare star needs something after it. -/
def areInOrder (place : ParameterPlace) : List Parameter → Bool
  | [] =>
      match place with
      | .last bare => !bare
      | _ => true
  | param :: rest =>
      match place, param with
      | .first _, .plain _ _ => areInOrder (.first true) rest
      | .first true, .slash => areInOrder .middle rest
      | .middle, .plain _ _ => areInOrder .middle rest
      | .first _, .star name => areInOrder (.last name.isNone) rest
      | .middle, .star name => areInOrder (.last name.isNone) rest
      | .last _, .plain _ _ => areInOrder (.last false) rest
      | .first _, .doubleStar _ => areInOrder .done rest
      | .middle, .doubleStar _ => areInOrder .done rest
      | .last _, .doubleStar _ => areInOrder .done rest
      | _, _ => false

/-- Whether no parameter without a default follows one with a default; after a star the order is
free. -/
def defaultsComeLast (given : Bool) : List Parameter → Bool
  | .plain _ hasDefault :: rest =>
      (hasDefault || !given) && defaultsComeLast (given || hasDefault) rest
  | .slash :: rest => defaultsComeLast given rest
  | _ => true

/-- Whether a list of parameters is legal. -/
def areLegal (params : List Parameter) : Bool :=
  areInOrder (.first false) params && defaultsComeLast false params &&
    (parameterNames params).Nodup

/-- The type note of a parameter, where one is allowed. -/
def typeNote (annotated : Bool) (value : Parse Expr) : Parse Unit := do
  if annotated && (← atSign ":") then
    skip
    let _ ← value

/-- One parameter. -/
def parameter (level : Level) (annotated : Bool) : Parse Parameter := do
  if ← acceptSign "/" then return .slash
  else if ← acceptSign "*" then
    if ← nextIs (fun token => token matches .name _) then
      let name ← identifier
      typeNote annotated (starOrTest level)
      return .star (some name)
    else return .star none
  else if ← acceptSign "**" then
    if ← nextIs (fun token => token matches .name _) then
      let name ← identifier
      typeNote annotated level.test
      return .doubleStar (some name)
    else return .doubleStar none
  else
    let name ← identifier
    typeNote annotated level.test
    if ← acceptSign "=" then
      let _ ← level.test
      return .plain name true
    else return .plain name false

/-- Whether a token begins a parameter. -/
def startsParameter : Token → Bool
  | .name _ => true
  | .sign text => ["/", "*", "**"].contains text
  | _ => false

/-- A list of parameters, perhaps empty. -/
def parameters (level : Level) (annotated : Bool) : Parse Unit := do
  if ← nextIs startsParameter then
    let params ← commaList startsParameter (parameter level annotated)
    if areLegal params.1 then return () else failure
  else return ()

/-- A `lambda`, a conditional expression or an operand of one. -/
def test (level : Level) : Parse Expr := do
  if ← acceptWord "lambda" then
    parameters level false
    sign ":"
    let _ ← level.test
    return .dynamic
  else
    let e ← disjunction level
    if ← acceptWord "if" then
      let _ ← disjunction level
      word "else"
      let _ ← level.test
      return .dynamic
    else return e

end RouteAtlas.Python.Grammar
