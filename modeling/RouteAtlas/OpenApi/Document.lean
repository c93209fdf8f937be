/-
Module: RouteAtlas.OpenApi.Document
Layer: OpenApi
Purpose: Documents that describe a web service: its paths, and for each path an operation for each
  request method that it answers.
Trusted boundary: none
Main exports: Info, Server, Parameter, Content, RequestBody, Response, Operation, PathItem,
  PathItem.operation?, PathItem.setOperation, PathItem.operations, Document,
  Document.operationCount
-/
import RouteAtlas.Http
import RouteAtlas.OpenApi.Schema

namespace RouteAtlas.OpenApi

/-- What a service is called. -/
structure Info where
  title : String
  version : String
  description : Option String := none
deriving DecidableEq, Repr, Inhabited

/-- Where a service is found. -/
structure Server where
  url : String
  description : String
deriving DecidableEq, Repr, Inhabited

/-- A parameter of an operation: its name, where it stands in a request, and its type. -/
structure Parameter where
  name : String
  location : String
  required : Bool
  type : String
deriving DecidableEq, Repr, Inhabited

/-- The schemas of a body by media type. -/
abbrev Content := KeyMap Schema

/-- What is sent with a request. -/
structure RequestBody where
  required : Bool
  content : Content
deriving Inhabited

/-- What comes back. -/
structure Response where
  description : String
  content : Option Content := none
deriving Inhabited

/-- What a request does. -/
structure Operation where
  summary : Option String := none
  operationId : String
  description : String
  parameters : Option (List Parameter) := none
  requestBody : Option RequestBody := none
  responses : KeyMap Response
deriving Inhabited

/-- The operations of a path by request method. -/
structure PathItem where
  get : Option Operation := none
  post : Option Operation := none
  put : Option Operation := none
  delete : Option Operation := none
  patch : Option Operation := none
  options : Option Operation := none
  head : Option Operation := none
deriving Inhabited

namespace PathItem

/-- The operation for a method. -/
def operation? (item : PathItem) : Method → Option Operation
  | .get => item.get
  | .post => item.post
  | .put => item.put
  | .delete => item.delete
  | .patch => item.patch
  | .options => item.options
  | .head => item.head

/-- Set the operation for a method. -/
def setOperation (item : PathItem) (method : Method) (operation : Operation) : PathItem :=
  match method with
  | .get => { item with get := some operation }
  | .post => { item with post := some operation }
  | .put => { item with put := some operation }
  | .delete => { item with delete := some operation }
  | .patch => { item with patch := some operation }
  | .options => { item with options := some operation }
  | .head => { item with head := some operation }

/-- All operations in the order of the methods. -/
def operations (item : PathItem) : List Operation := Method.all.filterMap item.operation?

/-- The operation that was set is there, and the others are as before. -/
theorem operation?_setOperation (item : PathItem) (method other : Method)
    (operation : Operation) :
    (item.setOperation method operation).operation? other =
      if other = method then some operation else item.operation? other := by
  cases method <;> cases other <;> rfl

end PathItem

/-- The description of a service. -/
structure Document where
  version : String
  info : Info
  servers : List Server
  paths : KeyMap PathItem
  schemas : Option (KeyMap Schema) := none
deriving Inhabited

/-- The number of operations of all paths. -/
def Document.operationCount (document : Document) : Nat :=
  document.paths.values.foldr (fun item count => item.operations.length + count) 0

end RouteAtlas.OpenApi
