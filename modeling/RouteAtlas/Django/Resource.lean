/-
Module: RouteAtlas.Django.Resource
Layer: Django
Purpose: The routes of a resource that is registered with a router: one for each action of its view
  set, on the path of the collection or on that of one item, and then its extra actions.
Trusted boundary: none
Main exports: collectionPath, itemPath, resourceRoutes
-/
import RouteAtlas.Route
import RouteAtlas.Django.Router
import RouteAtlas.Django.ViewSet

namespace RouteAtlas.Django

/-- The path of the collection, in a file whose routes appear under `path`. -/
def collectionPath (path : String) (mounted : Mounted) : String :=
  let own := Text.trimEndWhere (· = '/') mounted.registration.path.toList
  path ++ mounted.mount ++ String.ofList own ++ "/"

/-- The path of one item of a collection. -/
def itemPath (collection : String) : String := collection ++ "\x7bid\x7d/"

/-- The paths of a resource and what its routes have in common. -/
structure Resource where
  className : String
  registered : String
  collection : String
deriving DecidableEq, Repr, Inhabited

namespace Resource

/-- The resource of a mounted registration. -/
def ofMounted (path : String) (mounted : Mounted) : Resource :=
  ⟨mounted.registration.resource, mounted.registration.path, collectionPath path mounted⟩

/-- The path for requests on one item or on the collection. -/
def base (resource : Resource) (onItem : Bool) : String :=
  if onItem then itemPath resource.collection else resource.collection

/-- The route of an action. -/
def route (resource : Resource) (action path : String) (method : Method) : Route :=
  { path := path
    method := method
    operationId := resource.className ++ "_" ++ action
    description := action ++ " " ++ resource.registered
    handler := some resource.className }

/-- The route of a standard action. -/
def actionRoute (resource : Resource) (action : Action) : Route :=
  resource.route action.name (resource.base action.onItem) action.method

/-- The routes of an extra action, one for each of its methods. -/
def extraRoutes (resource : Resource) (extra : ExtraAction) : List Route :=
  extra.methods.map
    (resource.route extra.name (resource.base extra.onItem ++ extra.urlPath ++ "/"))

end Resource

/-- The routes of a mounted registration. A view set that was not found is taken to have the fallback
actions. -/
def resourceRoutes (path : String) (mounted : Mounted) (viewSet : Option ViewSet) :
    List Route :=
  let resource := Resource.ofMounted path mounted
  let actions := viewSet.elim ViewSet.fallbackActions ViewSet.actions
  let extras := viewSet.elim [] ViewSet.extraActions
  actions.map resource.actionRoute ++ extras.flatMap resource.extraRoutes

end RouteAtlas.Django
