/-
Module: RouteAtlas.Django.View
Layer: Django
Purpose: The views that routes name, and the request methods that they answer. A function view states
  its methods in a decorator, a class view in the call that makes a view of it.
Trusted boundary: none
Main exports: decoratorMethods?, declaredMethods?, statedMethods?
-/
import RouteAtlas.View
import RouteAtlas.Python.Node

namespace RouteAtlas.Django

/-- The methods that a decorator `api_view` states; `GET` if it states none. -/
def apiViewMethods? (decorator : Python.Expr) : Option (List Method) :=
  match decorator.asCall? with
  | none => none
  | some call =>
      if call.func.simpleName? = some "api_view" then
        let verbs := (call.argOrKeyword? 0 "http_method_names").elim [] Python.Expr.texts
        let methods := Method.parseAll verbs
        some (if methods.isEmpty then [.get] else methods)
      else none

/-- The methods that the first `api_view` among some decorators states. -/
def decoratorMethods? (decorators : List Python.Expr) : Option (List Method) :=
  decorators.findSome? apiViewMethods?

/-- The methods of the first function of a name in a module that states any. -/
def declaredMethods? (body : Python.Module) (function : String) : Option (List Method) :=
  (Python.functionNodes body).findSome? fun decl =>
    if decl.name = function then decoratorMethods? decl.decorators else none

/-- Methods, unless there are none. -/
def someMethods? (verbs : List String) : Option (List Method) :=
  let methods := Method.parseAll verbs
  if methods.isEmpty then none else some methods

/-- The methods that a call of `as_view` states: in a list of names, or as the keys of the mapping
from methods to actions. -/
def asViewMethods? (view : Python.Expr) : Option (List Method) :=
  match view.asCall? with
  | none => none
  | some call =>
      if call.func.simpleName? = some "as_view" then
        ((call.keyword? "http_method_names").bind fun names => someMethods? names.texts).or <|
          match call.args.head? with
          | some (.dict keys) => someMethods? (keys.filterMap Python.Expr.text?)
          | _ => none
      else none

/-- The methods that a route states on the spot, in its view or in a keyword argument of its own. -/
def statedMethods? (route : Python.Call) (view : Option Python.Expr) : Option (List Method) :=
  (view.bind asViewMethods?).or
    ((route.keyword? "methods").bind fun methods => someMethods? methods.texts)

end RouteAtlas.Django
