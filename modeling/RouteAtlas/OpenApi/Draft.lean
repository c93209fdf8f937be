/-
Module: RouteAtlas.OpenApi.Draft
Layer: OpenApi
Purpose: Documents in the making. Routes are added one by one; of two routes with the same template
  and method the first one is kept, and every operation gets an identifier of its own.
Trusted boundary: none
Main exports: Draft, Draft.uniqueId, Draft.addRoute, Draft.addRoutes, Draft.addEndpoints,
  Draft.document
-/
import RouteAtlas.Naming.OperationId
import RouteAtlas.OpenApi.Document
import RouteAtlas.OpenApi.ModelSchema
import RouteAtlas.Url.Template

namespace RouteAtlas.OpenApi

open Project (Inventory)

/-- The description of the one server of a document. -/
def serverDescription : String := "API with base path"

/-- A document in the making, with the identifiers that it has given out and the number of routes
that were turned away. -/
structure Draft where
  info : Info := ⟨"API", "1.0.0", none⟩
  servers : List Server := [⟨"/", serverDescription⟩]
  paths : KeyMap PathItem := []
  operationIds : List String := []
  duplicates : Nat := 0
deriving Inhabited

/-- An operation before it has an identifier. -/
structure Request where
  route : Route
  template : String
  model : Option String := none
  summary : Option String := none
deriving Repr, Inhabited

/-- The content of a body in JSON. -/
def jsonContent (schema : Schema) : Content := [("application/json", schema)]

/-- A parameter that stands in the path. -/
def pathParameter (name : String) : Parameter := ⟨name, "path", true, "string"⟩

namespace Request

/-- The names of the placeholders of the template. -/
def parameters (request : Request) : List String := Url.parametersOf request.template

/-- What is sent with a request that creates or changes something. -/
def body (request : Request) : Option RequestBody :=
  request.model.bind fun model =>
    if [Method.post, .put, .patch].contains request.route.method then
      some ⟨true, jsonContent (.toModel model)⟩
    else none

/-- What comes back. A request without a key answers with a list. -/
def responseContent (request : Request) : Option Content :=
  request.model.bind fun model =>
    let single := request.parameters.any fun name => name == "id" || name == "pk"
    match request.route.method with
    | .get => some (jsonContent (if single then .toModel model else .listOf (.toModel model)))
    | .post => some (jsonContent (.toModel model))
    | .put => some (jsonContent (.toModel model))
    | .patch => some (jsonContent (.toModel model))
    | _ => none

/-- The operation with the given identifier. -/
def operation (request : Request) (operationId : String) : Operation :=
  { summary := request.summary
    operationId := operationId
    description := request.route.description
    parameters :=
      if request.parameters.isEmpty then none else some (request.parameters.map pathParameter)
    requestBody := request.body
    responses := [("200", ⟨"Successful response", request.responseContent⟩)] }

end Request

namespace Draft

/-- An identifier with a number at its end. -/
def numbered (base : String) (n : Nat) : String := base ++ "_" ++ toString n

/-- The least number from `n` on that makes an identifier which is not taken. So many tries as there
are taken identifiers are enough, because different numbers make different identifiers. -/
def freeNumber (taken : List String) (base : String) : (tries n : Nat) → Nat
  | 0, n => n
  | tries + 1, n =>
      if taken.contains (numbered base n) then freeNumber taken base tries (n + 1) else n

/-- An identifier that is not taken: the own one, or the one that is made of method, path and
handler, or that one with a number. -/
def uniqueId (taken : List String) (request : Request) : String :=
  let route := request.route
  if taken.contains route.operationId then
    let made := Naming.operationId route.method.name request.template route.handler
    if taken.contains made then numbered made (freeNumber taken made taken.length 2) else made
  else route.operationId

/-- The operation of a method on a path, if there is one. -/
def operation? (draft : Draft) (template : String) (method : Method) : Option Operation :=
  (KeyMap.find? template draft.paths).bind fun item => item.operation? method

/-- Add an operation, unless its path has one for the method. -/
def addRequest (draft : Draft) (request : Request) : Draft × Bool :=
  let method := request.route.method
  match draft.operation? request.template method with
  | some _ => ({ draft with duplicates := draft.duplicates + 1 }, false)
  | none =>
      let operationId := uniqueId draft.operationIds request
      let item := (KeyMap.find? request.template draft.paths).getD {}
      let changed := item.setOperation method (request.operation operationId)
      ({ draft with
          paths := KeyMap.insert request.template changed draft.paths
          operationIds := operationId :: draft.operationIds }, true)

/-- What a route asks for. If the classes of the project are given, the model that it is about is
looked up among them. -/
def requestOf (inventory : Option Inventory) (route : Route) : Request :=
  let template := Url.template route.path
  { route := route
    template := template
    model := inventory.bind fun inventory => modelOfRoute? inventory template route.handler }

/-- Add a route, and say whether it was new. -/
def addRoute (draft : Draft) (inventory : Option Inventory) (route : Route) : Draft × Bool :=
  draft.addRequest (requestOf inventory route)

/-- Add several routes. -/
def addRoutes (draft : Draft) (inventory : Option Inventory) (routes : List Route) : Draft :=
  routes.foldl (fun draft route => (draft.addRoute inventory route).1) draft

/-- One of the endpoints that a view set has by convention. -/
def endpointRequest (viewSet model path operationId summary : String) (method : Method) :
    Request :=
  { route := {
      path := path
      method := method
      operationId := operationId
      description := summary
      handler := some viewSet }
    template := Url.template path
    model := some model
    summary := some summary }

/-- The endpoints that a view set for a model has by convention, below a base path. -/
def endpointRequests (viewSet model base : String) : List Request :=
  let lower := Text.lowercase model
  let collection := base ++ "/"
  let item := base ++ "/\x7bid\x7d/"
  let request := endpointRequest viewSet model
  [request collection ("list_" ++ lower ++ "s") ("List " ++ model ++ " objects") .get,
    request collection ("create_" ++ lower) ("Create " ++ model ++ " object") .post,
    request item ("get_" ++ lower) ("Retrieve " ++ model ++ " object") .get,
    request item ("update_" ++ lower) ("Update " ++ model ++ " object") .put,
    request item ("delete_" ++ lower) ("Delete " ++ model ++ " object") .delete]

/-- The base path of the endpoints of a model. -/
def endpointBase (model : String) : String := "/api/" ++ Naming.endpointName model

/-- Add the endpoints of a view set, unless there is a path that begins like theirs. -/
def addEndpointsOf (inventory : Inventory) (draft : Draft) (viewSet : Django.ViewSet) : Draft :=
  match inventory.modelOf? viewSet with
  | none => draft
  | some model =>
      let base := endpointBase model
      if draft.paths.keys.any (Text.hasPrefix base) then draft
      else
        (endpointRequests viewSet.name model base).foldl
          (fun draft request => (draft.addRequest request).1) draft

/-- Add the endpoints of the view sets of a project, in order of their names. -/
def addEndpoints (draft : Draft) (inventory : Inventory) : Draft :=
  inventory.viewSets.values.foldl (addEndpointsOf inventory) draft

/-- The version of the format. -/
def formatVersion : String := "3.0.2"

/-- The finished document. If the classes of the project are given, it holds the schemas of its
models. -/
def document (draft : Draft) (inventory : Option Inventory) : Document :=
  { version := formatVersion
    info := draft.info
    servers := draft.servers
    paths := draft.paths
    schemas := (inventory.map modelSchemas).filter fun schemas => !schemas.isEmpty }

end Draft

end RouteAtlas.OpenApi
