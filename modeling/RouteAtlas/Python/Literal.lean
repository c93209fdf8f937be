/-
Module: RouteAtlas.Python.Literal
Layer: Python
Purpose: What an expression says without being evaluated: literal texts, truth values and numbers,
  plain and dotted names, the receiver and method of a call, keyword arguments and docstrings.
Trusted boundary: none
Main exports: Expr.text?, Expr.bool?, Expr.word64?, Expr.texts, Expr.nameId?, Expr.simpleName?,
  Expr.dottedName?, Call.keyword?, Call.argOrKeyword?, Call.method?, docstring?
-/
import RouteAtlas.Python.Syntax
import RouteAtlas.Text.Blank

namespace RouteAtlas.Python

/-- The text of a string literal. Formatted strings and bytes are none. -/
def Expr.text? : Expr → Option String
  | .constant (.text value) => some value
  | _ => none

/-- The value of `True` or `False`. -/
def Expr.bool? : Expr → Option Bool
  | .constant (.bool value) => some value
  | _ => none

/-- The value of an integer literal that fits into 64 bits. -/
def Expr.word64? : Expr → Option Nat
  | .constant (.int value) => if value < Nat.pow 2 64 then some value else none
  | _ => none

/-- The items of a list or tuple display. -/
def Expr.items? : Expr → Option (List Expr)
  | .list items => some items
  | .tuple items => some items
  | _ => none

/-- The string literals among the items of a list or tuple display, in order. -/
def Expr.texts (e : Expr) : List String :=
  match e.items? with
  | some items => items.filterMap Expr.text?
  | none => []

/-- The identifier of a bare name. -/
def Expr.nameId? : Expr → Option String
  | .name id => some id
  | _ => none

/-- The last identifier of a name or of an attribute of anything. -/
def Expr.simpleName? : Expr → Option String
  | .name id => some id
  | .attribute _ attr => some attr
  | _ => none

/-- The full text of a chain of attributes that starts at a name. -/
def Expr.dottedName? : Expr → Option String
  | .name id => some id
  | .attribute value attr => value.dottedName?.map fun base => base ++ "." ++ attr
  | _ => none

/-- The value of the keyword argument `name`. -/
def Call.keyword? (call : Call) (name : String) : Option Expr :=
  (call.keywords.find? fun keyword => keyword.1 == some name).map Prod.snd

/-- The positional argument at `index`, else the keyword argument `name`. -/
def Call.argOrKeyword? (call : Call) (index : Nat) (name : String) : Option Expr :=
  call.args[index]?.or (call.keyword? name)

/-- Receiver and method of a call `receiver.method(...)` on a bare name. -/
def Call.method? (call : Call) : Option (String × String) :=
  match call.func with
  | .attribute (.name receiver) method => some (receiver, method)
  | _ => none

/-- The first line with text in it of the string literal that opens a body. -/
def docstring? (body : List Stmt) : Option String :=
  match body with
  | .expression value :: _ =>
      value.text?.bind fun text => ((Text.lines text).map Text.trim).find? fun line => line ≠ ""
  | _ => none

end RouteAtlas.Python
