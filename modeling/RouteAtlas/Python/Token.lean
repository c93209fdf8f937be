/-
Module: RouteAtlas.Python.Token
Layer: Python
Purpose: The lexical units of Python source text.
Trusted boundary: none
Main exports: TextPrefix, Token, reservedWords
-/

namespace RouteAtlas.Python

/-- What the letters before the opening quote ask for. -/
structure TextPrefix where
  raw : Bool
  bytes : Bool
  formatted : Bool
deriving DecidableEq, Repr, Inhabited

/-- A lexical unit. A string literal keeps the characters between its quotes as they are written.
`inexact` is a float or an imaginary number. -/
inductive Token where
  | name (id : String)
  | word (text : String)
  | sign (text : String)
  | int (value : Nat)
  | inexact
  | text (marks : TextPrefix) (raw : List Char)
  | newline
  | indent
  | dedent
deriving DecidableEq, Repr, Inhabited

/-- The words that can never be identifiers. The words `match`, `case` and `type` are reserved in
certain places only. -/
def reservedWords : List String := [
  "False", "None", "True", "and", "as", "assert", "async", "await", "break", "class", "continue",
  "def", "del", "elif", "else", "except", "finally", "for", "from", "global", "if", "import", "in",
  "is", "lambda", "nonlocal", "not", "or", "pass", "raise", "return", "try", "while", "with",
  "yield"]

end RouteAtlas.Python
