/-
Module: RouteAtlas.Route
Layer: Route
Purpose: Routes as a source file declares them, and references from one source file to the routes of
  another.
Trusted boundary: none
Main exports: Route, Route.under, Route.forMethods, Scope, Include, Include.ofImport, Include.scope
-/
import RouteAtlas.Http
import RouteAtlas.Python.Import

namespace RouteAtlas

/-- One request method on one path. The path is written as the framework writes it, and the
parameters are the names of the placeholders of its template, once they are known. -/
structure Route where
  path : String
  method : Method
  operationId : String
  description : String
  parameters : List String := []
  handler : Option String := none
deriving DecidableEq, Repr, Inhabited

namespace Route

/-- The route with `start` before its path. -/
def under (start : String) (route : Route) : Route := { route with path := start ++ route.path }

/-- One route for each method, with a description that lists all of them. Every method but `GET`
shows in the identifier of its operation. -/
def forMethods (route : Route) (rawPath : String) (methods : List Method) : List Route :=
  let description := Text.join ", " (methods.map Method.title) ++ " " ++ rawPath
  methods.map fun method =>
    { route with
      method := method
      operationId :=
        if method = .get then route.operationId else route.operationId ++ "_" ++ method.name
      description := description }

/-- Only the path changes. -/
theorem under_path (start : String) (route : Route) :
    (route.under start).path = start ++ route.path := rfl

/-- Beginnings of paths compose. -/
theorem under_under (outer inner : String) (route : Route) :
    (route.under inner).under outer = route.under (outer ++ inner) := by
  simp [under, String.append_assoc]

/-- There is one route for each method. -/
theorem forMethods_methods (route : Route) (rawPath : String) (methods : List Method) :
    (route.forMethods rawPath methods).map Route.method = methods := by
  simp [forMethods, Function.comp_def]

end Route

/-- The part of a source file that is asked for: the routes of one object in it, if a symbol is
given, at a path that may take the place of the object's own one. -/
structure Scope where
  symbol : Option String := none
  urlPath : Option String := none
deriving DecidableEq, Repr, Inhabited

/-- A reference to the routes of another source file, which appear under `path`. -/
structure Include where
  module : String
  level : Nat := 0
  path : String := ""
  symbol : Option String := none
  overridePath : Option String := none
deriving DecidableEq, Repr, Inhabited

namespace Include

/-- The reference to what an import statement bound. -/
def ofImport (imported : Python.Imported) (path : String) : Include :=
  { module := imported.module, level := imported.level, path := path, symbol := imported.symbol }

/-- The part of the other file that is meant. -/
def scope (reference : Include) : Scope := ⟨reference.symbol, reference.overridePath⟩

end Include

end RouteAtlas
