/-
Module: RouteAtlas.Python.Grammar.Pattern
Layer: Python
Purpose: The grammar of the patterns in `match` statements. A pattern declares no route, so the rules
  only say where it ends.
Trusted boundary: none
Main exports: pattern, patterns
-/
import RouteAtlas.Python.Grammar.Expression

namespace RouteAtlas.Python.Grammar

/-- Whether a token is a number. -/
def isNumber : Token → Bool
  | .int _ => true
  | .inexact => true
  | _ => false

/-- Require a number. -/
def number : Parse Unit := do
  if ← nextIs isNumber then skip else failure

/-- A number with a sign or not, or the sum or difference of two. -/
def signedNumber : Parse Unit := do
  let _ ← acceptSign "-"
  number
  if ← acceptOneOf ["+", "-"] then number

/-- Whether a token begins a literal pattern. -/
def startsLiteral : Token → Bool
  | .text _ _ => true
  | .word text => ["None", "True", "False"].contains text
  | .sign text => text == "-"
  | token => isNumber token

/-- A literal pattern. -/
def literalPattern (level : Level) : Parse Unit := do
  if ← nextIs (fun token => token matches .text _ _) then let _ ← textLiteral level
  else if ← nextIs (fun token => token matches .word _) then skip
  else signedNumber

/-- A dotted name; the answer tells how many attributes it has. -/
def dottedPattern : Parse Nat := do
  let _ ← identifier
  return (← many (announced (acceptSign ".") identifier)).length

/-- Whether a token begins a pattern. -/
def startsPattern (token : Token) : Bool :=
  match token with
  | .name _ => true
  | .sign text => ["(", "[", "\x7b", "*", "-"].contains text
  | token => startsLiteral token

/-- The arguments of a class pattern: positional ones, then named ones. -/
def classArguments (level : Level) : Parse Unit := do
  if ← acceptSign ")" then return ()
  let items ← commaList startsPattern do
    match ← upcoming with
    | .name _ :: .sign "=" :: _ =>
        skip
        skip
        level.pattern
        return true
    | _ =>
        level.pattern
        return false
  sign ")"
  if items.1.dropWhile (!·) |>.all id then return () else failure

/-- The key of a mapping pattern: a literal or a dotted name. -/
def mappingKey (level : Level) : Parse Unit := do
  if ← nextIs startsLiteral then literalPattern level
  else if (← dottedPattern) = 0 then failure

/-- The rest of a mapping pattern, whose brace is open. What is left over may be captured last. -/
def mappingPattern (level : Level) : Parse Unit := do
  if ← acceptSign "\x7d" then return ()
  let items ← commaList (fun token => startsPattern token || token == .sign "**") do
    if ← acceptSign "**" then
      let _ ← identifier
      return true
    else
      mappingKey level
      sign ":"
      level.pattern
      return false
  sign "\x7d"
  if items.1.dropLast.any id then failure else return ()

/-- A pattern without alternatives. -/
def closedPattern (level : Level) : Parse Unit := do
  if ← acceptSign "*" then let _ ← identifier
  else if ← acceptSign "(" then
    if !(← acceptSign ")") then
      let _ ← commaList startsPattern level.pattern
      sign ")"
  else if ← acceptSign "[" then
    if !(← acceptSign "]") then
      let _ ← commaList startsPattern level.pattern
      sign "]"
  else if ← acceptSign "\x7b" then mappingPattern level
  else if ← nextIs startsLiteral then literalPattern level
  else
    let _ ← dottedPattern
    if ← acceptSign "(" then classArguments level

/-- A pattern: alternatives, and a name for the whole unless the name is `_`. -/
def pattern (level : Level) : Parse Unit := do
  closedPattern level
  let _ ← many (announced (acceptSign "|") (closedPattern level))
  if ← acceptWord "as" then
    if (← identifier) = "_" then failure

/-- The patterns of a case. -/
def patterns (level : Level) : Parse Unit := do
  let _ ← commaList startsPattern (pattern level)

end RouteAtlas.Python.Grammar
