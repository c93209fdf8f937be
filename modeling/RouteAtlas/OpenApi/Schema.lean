/-
Module: RouteAtlas.OpenApi.Schema
Layer: OpenApi
Purpose: Schemas of data: a type with its parts, or a reference to a schema by name.
Trusted boundary: none
Main exports: Schema, Schema.typed, Schema.toModel, Schema.listOf, Schema.modelPath
-/
import RouteAtlas.Data.KeyMap

namespace RouteAtlas.OpenApi

/-- A schema. Every part of it may be missing. -/
structure Schema where
  type : Option String := none
  properties : Option (List (String × Schema)) := none
  required : Option (List String) := none
  items : Option Schema := none
  choices : Option (List String) := none
  reference : Option String := none
  format : Option String := none
  maxLength : Option Nat := none
  nullable : Option Bool := none
  description : Option String := none
deriving Inhabited

namespace Schema

/-- A schema with a type alone. -/
def typed (type : String) : Schema := { type := some type }

/-- Where the schema of a model is found in a document. -/
def modelPath (model : String) : String := "#/components/schemas/" ++ model

/-- A reference to the schema of a model. -/
def toModel (model : String) : Schema := { reference := some (modelPath model) }

/-- A list of things. -/
def listOf (items : Schema) : Schema := { typed "array" with items := some items }

end Schema

end RouteAtlas.OpenApi
