/-
Module: RouteAtlas.Findings
Layer: Route
Purpose: What one source file says about routes, before the other files of the project are looked at:
  its own routes, its references to other files, and what is needed to complete both.
Trusted boundary: none
Main exports: ImportedView, Findings
-/
import RouteAtlas.Route
import RouteAtlas.Django.Router
import RouteAtlas.Django.ViewSet

namespace RouteAtlas

/-- A view that is imported from another file, so that only that file knows which methods it
answers. `route` is the position of the route that waits for them. -/
structure ImportedView where
  route : Nat
  rawPath : String
  module : String
  level : Nat
  function : String
deriving DecidableEq, Repr, Inhabited

/-- What a source file says about routes. -/
structure Findings where
  routes : List Route := []
  includes : List Include := []
  registrations : List Django.Mounted := []
  viewSets : KeyMap Django.ViewSet := []
  imports : Python.ImportTable := []
  importedViews : List ImportedView := []
  appName : Option String := none
deriving Repr, Inhabited

end RouteAtlas
