/-
Module: RouteAtlas.OpenApi.Encoding
Layer: OpenApi
Purpose: Documents as JSON values. Members are in a fixed order, and what is missing is left out.
Trusted boundary: none
Main exports: Schema.toJson, Operation.toJson, PathItem.toJson, Document.toJson
-/
import RouteAtlas.Json.Value
import RouteAtlas.OpenApi.Document

namespace RouteAtlas.OpenApi

/-- A member that is left out if there is no value. -/
def optionalMember (name : String) (value : Option Json) : List (String × Json) :=
  (value.map fun value => (name, value)).toList

/-- A text as an optional member. -/
def optionalText (name : String) (value : Option String) : List (String × Json) :=
  optionalMember name (value.map .text)

/-- An array of texts. -/
def textArray (texts : List String) : Json := .array (texts.map .text)

mutual

/-- A schema as a value. -/
def Schema.toJson : Schema → Json
  | ⟨type, properties, required, items, choices, reference, format, maxLength, nullable,
      description⟩ =>
      .object <|
        optionalText "type" type ++
        optionalProperties properties ++
        optionalMember "required" (required.map textArray) ++
        optionalItems items ++
        optionalMember "enum" (choices.map textArray) ++
        optionalText "$ref" reference ++
        optionalText "format" format ++
        optionalMember "maxLength" (maxLength.map Json.natural) ++
        optionalMember "nullable" (nullable.map .bool) ++
        optionalText "description" description

/-- The schema of items as an optional member. -/
def optionalItems : Option Schema → List (String × Json)
  | none => []
  | some items => [("items", items.toJson)]

/-- The properties as an optional member. -/
def optionalProperties : Option (List (String × Schema)) → List (String × Json)
  | none => []
  | some properties => [("properties", .object (schemaMembers properties))]

/-- Named schemas as members. -/
def schemaMembers : List (String × Schema) → List (String × Json)
  | [] => []
  | (name, schema) :: rest => (name, schema.toJson) :: schemaMembers rest

end

/-- A map as an object, with the values as `encode` writes them. -/
def mapJson {α : Type} (encode : α → Json) (map : KeyMap α) : Json :=
  .object (map.map fun binding => (binding.1, encode binding.2))

/-- The content of a body as a value. -/
def contentJson : Content → Json := mapJson fun schema => .object [("schema", schema.toJson)]

/-- The name of a service as a value. -/
def Info.toJson (info : Info) : Json :=
  .object <|
    [("title", .text info.title), ("version", .text info.version)] ++
    optionalText "description" info.description

/-- A server as a value. -/
def Server.toJson (server : Server) : Json :=
  .object [("url", .text server.url), ("description", .text server.description)]

/-- A parameter as a value. -/
def Parameter.toJson (parameter : Parameter) : Json :=
  .object [
    ("name", .text parameter.name),
    ("in", .text parameter.location),
    ("required", .bool parameter.required),
    ("schema", .object [("type", .text parameter.type)])]

/-- A request body as a value. -/
def RequestBody.toJson (body : RequestBody) : Json :=
  .object [("required", .bool body.required), ("content", contentJson body.content)]

/-- A response as a value. -/
def Response.toJson (response : Response) : Json :=
  .object <|
    [("description", .text response.description)] ++
    optionalMember "content" (response.content.map contentJson)

/-- An operation as a value. -/
def Operation.toJson (operation : Operation) : Json :=
  .object <|
    optionalText "summary" operation.summary ++
    [("operationId", .text operation.operationId),
      ("description", .text operation.description)] ++
    optionalMember "parameters"
      (operation.parameters.map fun parameters => .array (parameters.map Parameter.toJson)) ++
    optionalMember "requestBody" (operation.requestBody.map RequestBody.toJson) ++
    [("responses", mapJson Response.toJson operation.responses)]

/-- The operations of a path as a value. -/
def PathItem.toJson (item : PathItem) : Json :=
  .object <| Method.all.flatMap fun method =>
    optionalMember method.name ((item.operation? method).map Operation.toJson)

/-- A document as a value. -/
def Document.toJson (document : Document) : Json :=
  .object <|
    [("openapi", .text document.version),
      ("info", document.info.toJson),
      ("servers", .array (document.servers.map Server.toJson)),
      ("paths", mapJson PathItem.toJson document.paths)] ++
    optionalMember "components"
      (document.schemas.map fun schemas => .object [("schemas", mapJson Schema.toJson schemas)])

end RouteAtlas.OpenApi
