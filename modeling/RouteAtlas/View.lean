/-
Module: RouteAtlas.View
Layer: Route
Purpose: What both frameworks agree on about views: the keyword argument that states the methods of
  a route, and the name of the function or class that a view expression stands for.
Trusted boundary: none
Main exports: methodsOf, handlerName?
-/
import RouteAtlas.Http
import RouteAtlas.Python.Literal

namespace RouteAtlas

/-- The methods named by the keyword argument `methods` of a call; `GET` if there are none. -/
def methodsOf (call : Python.Call) : List Method :=
  let methods := Method.parseAll ((call.keyword? "methods").elim [] Python.Expr.texts)
  if methods.isEmpty then [.get] else methods

/-- The function or class that a view expression stands for. A class becomes a view by `as_view`;
what other calls return is unknown. -/
def handlerName? : Python.Expr → Option String
  | .call (.attribute value attr) _ _ => if attr = "as_view" then value.simpleName? else none
  | .call _ _ _ => none
  | other => other.simpleName?

/-- There is always a method. -/
theorem methodsOf_ne_nil (call : Python.Call) : methodsOf call ≠ [] := by
  simp only [methodsOf]
  split
  · simp
  · next h => simpa using h

end RouteAtlas
