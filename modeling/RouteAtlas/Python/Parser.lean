/-
Module: RouteAtlas.Python.Parser
Layer: Python
Purpose: From source text to the syntax tree of a module.
Trusted boundary: none
Main exports: SyntaxError, parse
-/
import RouteAtlas.Python.Grammar.Statement

namespace RouteAtlas.Python

/-- Why a text is no module: it cannot be cut into tokens, or the tokens do not form statements. -/
inductive SyntaxError where
  | badToken
  | badStatement
deriving DecidableEq, Repr, Inhabited

/-- What a user is told. -/
def SyntaxError.message : SyntaxError → String
  | .badToken => "invalid token"
  | .badStatement => "invalid syntax"

/-- The syntax tree of a module. Every nesting takes a character at least, so the length of the text
bounds the depth of the grammar. -/
def parse (source : String) : Except SyntaxError Module :=
  match tokens? source.toList with
  | none => .error .badToken
  | some tokens =>
      match (Grammar.moduleBody (Grammar.level (source.length + 2))).run tokens with
      | some (body, _) => .ok body
      | none => .error .badStatement

end RouteAtlas.Python
