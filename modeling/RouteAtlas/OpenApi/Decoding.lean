/-
Module: RouteAtlas.OpenApi.Decoding
Layer: OpenApi
Purpose: Documents from JSON values. Members that a document does not have are ignored, and an
  optional member may be `null`.
Trusted boundary: none
Main exports: Schema.ofJson?, Operation.ofJson?, PathItem.ofJson?, Document.ofJson?
-/
import RouteAtlas.Json.Value
import RouteAtlas.OpenApi.Document

namespace RouteAtlas.OpenApi

/-- The names of the members of a schema. -/
def schemaNames : List String := [
  "type", "properties", "required", "items", "enum", "$ref", "format", "maxLength", "nullable",
  "description"]

/-- A schema from a value whose parts are nested at most `depth` deep. -/
def Schema.ofJsonWithin : (depth : Nat) → Json → Option Schema
  | 0, _ => none
  | depth + 1, value =>
      match value.fields? schemaNames with
      | some [type, properties, required, items, choices, reference, format, maxLength, nullable,
          description] => do
          return {
            type := ← type.optional? Json.text?
            properties := ← properties.optional? (Json.map? (ofJsonWithin depth))
            required := ← required.optional? (Json.list? Json.text?)
            items := ← items.optional? (ofJsonWithin depth)
            choices := ← choices.optional? (Json.list? Json.text?)
            reference := ← reference.optional? Json.text?
            format := ← format.optional? Json.text?
            maxLength := ← maxLength.optional? Json.word64?
            nullable := ← nullable.optional? Json.bool?
            description := ← description.optional? Json.text? }
      | _ => none

/-- A schema from a value. -/
def Schema.ofJson? (value : Json) : Option Schema := Schema.ofJsonWithin value.depth value

/-- The schema of a media type. -/
def mediaSchema? (value : Json) : Option Schema :=
  match value.fields? ["schema"] with
  | some [schema] => Schema.ofJson? schema
  | _ => none

/-- The content of a body. -/
def content? : Json → Option Content := Json.map? mediaSchema?

/-- The name of a service from a value. -/
def Info.ofJson? (value : Json) : Option Info :=
  match value.fields? ["title", "version", "description"] with
  | some [title, version, description] => do
      return ⟨← title.text?, ← version.text?, ← description.optional? Json.text?⟩
  | _ => none

/-- A server from a value. -/
def Server.ofJson? (value : Json) : Option Server :=
  match value.fields? ["url", "description"] with
  | some [url, description] => do return ⟨← url.text?, ← description.text?⟩
  | _ => none

/-- The type of a parameter. -/
def parameterType? (value : Json) : Option String :=
  match value.fields? ["type"] with
  | some [type] => type.text?
  | _ => none

/-- A parameter from a value. -/
def Parameter.ofJson? (value : Json) : Option Parameter :=
  match value.fields? ["name", "in", "required", "schema"] with
  | some [name, location, required, schema] => do
      return ⟨← name.text?, ← location.text?, ← required.bool?, ← parameterType? schema⟩
  | _ => none

/-- A request body from a value. -/
def RequestBody.ofJson? (value : Json) : Option RequestBody :=
  match value.fields? ["required", "content"] with
  | some [required, content] => do return ⟨← required.bool?, ← content? content⟩
  | _ => none

/-- A response from a value. -/
def Response.ofJson? (value : Json) : Option Response :=
  match value.fields? ["description", "content"] with
  | some [description, content] => do
      return ⟨← description.text?, ← content.optional? content?⟩
  | _ => none

/-- The names of the members of an operation. -/
def operationNames : List String :=
  ["summary", "operationId", "description", "parameters", "requestBody", "responses"]

/-- An operation from a value. -/
def Operation.ofJson? (value : Json) : Option Operation :=
  match value.fields? operationNames with
  | some [summary, operationId, description, parameters, requestBody, responses] => do
      return {
        summary := ← summary.optional? Json.text?
        operationId := ← operationId.text?
        description := ← description.text?
        parameters := ← parameters.optional? (Json.list? Parameter.ofJson?)
        requestBody := ← requestBody.optional? RequestBody.ofJson?
        responses := ← Json.map? Response.ofJson? responses }
  | _ => none

/-- The operations of a path from a value. -/
def PathItem.ofJson? (value : Json) : Option PathItem :=
  match value.fields? (Method.all.map Method.name) with
  | some [get, post, put, delete, patch, options, head] => do
      return {
        get := ← get.optional? Operation.ofJson?
        post := ← post.optional? Operation.ofJson?
        put := ← put.optional? Operation.ofJson?
        delete := ← delete.optional? Operation.ofJson?
        patch := ← patch.optional? Operation.ofJson?
        options := ← options.optional? Operation.ofJson?
        head := ← head.optional? Operation.ofJson? }
  | _ => none

/-- The schemas of a document from the value of its components. -/
def components? (value : Json) : Option (KeyMap Schema) :=
  match value.fields? ["schemas"] with
  | some [schemas] => Json.map? Schema.ofJson? schemas
  | _ => none

/-- A document from a value. -/
def Document.ofJson? (value : Json) : Option Document :=
  match value.fields? ["openapi", "info", "servers", "paths", "components"] with
  | some [version, info, servers, paths, components] => do
      return {
        version := ← version.text?
        info := ← Info.ofJson? info
        servers := ← Json.list? Server.ofJson? servers
        paths := ← Json.map? PathItem.ofJson? paths
        schemas := ← components.optional? components? }
  | _ => none

end RouteAtlas.OpenApi
