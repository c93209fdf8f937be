/-
Module: RouteAtlas.OpenApi.ModelSchema
Layer: OpenApi
Purpose: The schemas of the models of a project, and which model a route is about, as far as its path
  or its handler tell.
Trusted boundary: none
Main exports: fieldSchema, modelSchema, modelSchemas, modelNamed?, modelOfSegment?, modelOfHandler?,
  modelOfRoute?
-/
import RouteAtlas.Naming.Casing
import RouteAtlas.OpenApi.Schema
import RouteAtlas.Project.Inventory
import RouteAtlas.Route
import RouteAtlas.Text.Digit

namespace RouteAtlas.OpenApi

open Project (Inventory)

/-- The schema of a field. A relationship with a model of the project is a reference to it. -/
def fieldSchema (inventory : Inventory) (field : Django.Field) : Schema :=
  match field.relatedModel.filter fun name => KeyMap.contains name inventory.models with
  | some related =>
      if field.kind = "ManyToManyField" then .listOf (.toModel related) else .toModel related
  | none =>
      { type := some field.type.name
        format := field.format?
        maxLength := field.maxLength
        nullable := if field.nullable then some true else none
        description := field.helpText
        choices := if field.choices.isEmpty then none else some field.choices
        items := if field.type = .array then some (.typed "integer") else none }

/-- The schema of a model: an object with a property for each field name, the last field of a name
being the one that counts. -/
def modelSchema (inventory : Inventory) (model : Django.Model) : Schema :=
  let properties : KeyMap Schema :=
    .ofList (model.fields.map fun field => (field.name, fieldSchema inventory field))
  let required := (model.fields.filter Django.Field.isRequired).map Django.Field.name
  { Schema.typed "object" with
    properties := some properties
    required := if required.isEmpty then none else some required
    description := model.description }

/-- The schemas of all models of a project. -/
def modelSchemas (inventory : Inventory) : KeyMap Schema :=
  .ofList (inventory.models.values.map fun model => (model.name, modelSchema inventory model))

/-- The first model whose name is the given one, whatever the case of its ASCII letters. -/
def modelNamed? (inventory : Inventory) (name : String) : Option String :=
  inventory.models.keys.find? fun model => Text.asciiLowercase model == Text.asciiLowercase name

/-- A path segment without a version number at its beginning, such as `v2`. -/
def withoutVersion (segment : String) : String :=
  match segment.toList with
  | 'v' :: rest =>
      match rest.takeWhile Text.isDecimalDigit with
      | [] => segment
      | _ => String.ofList (rest.dropWhile Text.isDecimalDigit)
  | _ => segment

/-- The model that a segment of a path names, in the singular or as its endpoint. -/
def modelOfSegment? (inventory : Inventory) (segment : String) : Option String :=
  if segment = "" || Text.hasPrefix "\x7b" segment then none
  else
    let plain := withoutVersion segment
    let singular := String.ofList (Text.trimEndWhere (· = 's') plain.toList)
    (modelNamed? inventory singular).or
      (inventory.models.keys.find? fun model => Naming.endpointName model == plain)

/-- The model that the name of a handler tells: what is left of it without `ViewSet` and `View`, or
the model of the view set of that name. -/
def modelOfHandler? (inventory : Inventory) (handler : String) : Option String :=
  let plain := Text.eraseAll "View" (Text.eraseAll "ViewSet" handler)
  (modelNamed? inventory plain).or
    ((KeyMap.find? handler inventory.viewSets).bind inventory.modelOf?)

/-- The model that a route is about. The segments of its path are asked first, from left to
right. -/
def modelOfRoute? (inventory : Inventory) (template : String) (handler : Option String) :
    Option String :=
  ((Text.split '/' template).findSome? (modelOfSegment? inventory)).or
    (handler.bind (modelOfHandler? inventory))

end RouteAtlas.OpenApi
