/-
Module: RouteAtlas.Django.Model
Layer: Django
Purpose: Models: classes whose fields describe a database table. The type and format of a field
  follow from the class of the field.
Trusted boundary: none
Main exports: DataType, fieldType, fieldFormat?, Field, Field.isRelationship, Field.isRequired,
  Model, Model.ofClass?, Model.relationships
-/
import RouteAtlas.Data.KeyMap
import RouteAtlas.Python.Literal
import RouteAtlas.Text.Affix
import RouteAtlas.Text.Split

namespace RouteAtlas.Django

/-- The types of data in a schema. -/
inductive DataType where
  | boolean
  | integer
  | number
  | object
  | array
  | string
deriving DecidableEq, Repr, Inhabited

/-- The name of a type. -/
def DataType.name : DataType → String
  | .boolean => "boolean"
  | .integer => "integer"
  | .number => "number"
  | .object => "object"
  | .array => "array"
  | .string => "string"

/-- The classes of fields that hold whole numbers. References are held as keys of that type. -/
def integerKinds : List String := [
  "IntegerField", "BigIntegerField", "SmallIntegerField", "PositiveIntegerField",
  "PositiveSmallIntegerField", "PositiveBigIntegerField", "AutoField", "BigAutoField",
  "SmallAutoField", "ForeignKey", "OneToOneField"]

/-- The type of a field of the given class. -/
def fieldType (kind : String) : DataType :=
  if kind = "BooleanField" || kind = "NullBooleanField" then .boolean
  else if integerKinds.contains kind then .integer
  else if kind = "FloatField" || kind = "DecimalField" then .number
  else if kind = "JSONField" then .object
  else if kind = "ManyToManyField" then .array
  else .string

/-- The format of a field of the given class. -/
def fieldFormat? : String → Option String
  | "DateField" => some "date"
  | "DateTimeField" => some "date-time"
  | "EmailField" => some "email"
  | "URLField" => some "uri"
  | "UUIDField" => some "uuid"
  | "TimeField" => some "time"
  | "DecimalField" => some "decimal"
  | "IPAddressField" => some "ipv4"
  | "GenericIPAddressField" => some "ipv4"
  | _ => none

/-- The classes of fields that refer to another model. -/
def relationshipKinds : List String := ["ForeignKey", "OneToOneField", "ManyToManyField"]

/-- A field of a model. -/
structure Field where
  name : String
  kind : String
  relatedModel : Option String := none
  maxLength : Option Nat := none
  nullable : Bool := false
  blank : Bool := false
  choices : List String := []
  helpText : Option String := none
deriving DecidableEq, Repr, Inhabited

namespace Field

/-- The type of the data. -/
def type (field : Field) : DataType := fieldType field.kind

/-- The format of the data. -/
def format? (field : Field) : Option String := fieldFormat? field.kind

/-- Whether the field refers to another model. -/
def isRelationship (field : Field) : Bool := relationshipKinds.contains field.kind

/-- A value must be given unless it may be null or blank or is the key itself. -/
def isRequired (field : Field) : Bool :=
  !field.nullable && !field.blank && field.name != "id"

end Field

/-- A model as its class statement describes it. -/
structure Model where
  name : String
  fields : List Field
  description : Option String := none
deriving DecidableEq, Repr, Inhabited

/-- The literals that the class body has named so far. -/
abbrev Literals := KeyMap Python.Expr

/-- The model that a relationship refers to. A text may name the application before it, and `self`
is the model that holds the field. -/
def relatedModel? (modelName : String) (target : Python.Expr) : Option String :=
  match target.text? with
  | some text => some (if text = "self" then modelName else Text.lastPiece '.' text)
  | none => target.simpleName?

/-- The values of choices that are written as pairs of a value and a label. -/
def choiceValues (choices : Python.Expr) : List String :=
  (choices.items?.getD []).filterMap fun pair =>
    (pair.items?.bind List.head?).bind Python.Expr.text?

/-- The choices of a field: written in place or under a name. -/
def choicesOf (literals : Literals) (choices : Python.Expr) : List String :=
  match choices with
  | .name id => (KeyMap.find? id literals).elim [] choiceValues
  | other => choiceValues other

/-- The field that an assignment of a call declares. -/
def Field.ofCall? (modelName : String) (literals : Literals) (name : String)
    (call : Python.Call) : Option Field := do
  let kind ← call.func.simpleName?
  let refers := relationshipKinds.contains kind
  if Text.hasSuffix "Field" kind || refers then
    some {
      name := name
      kind := kind
      relatedModel :=
        if refers then (call.argOrKeyword? 0 "to").bind (relatedModel? modelName) else none
      maxLength := (call.keyword? "max_length").bind Python.Expr.word64?
      nullable := ((call.keyword? "null").bind Python.Expr.bool?).getD false
      blank := ((call.keyword? "blank").bind Python.Expr.bool?).getD false
      choices := (call.keyword? "choices").elim [] (choicesOf literals)
      helpText := (call.keyword? "help_text").bind Python.Expr.text? }
  else none

namespace Model

/-- What has been read of a class body. -/
structure Reading where
  literals : Literals := []
  fields : List Field := []
deriving Inhabited

/-- Read one statement: an assignment of a call may declare a field, any other assignment names a
literal. -/
def read (modelName : String) (reading : Reading) : Python.Stmt → Reading
  | .assign targets value =>
      match targets.head?.bind Python.Expr.nameId? with
      | none => reading
      | some name =>
          match value.asCall? with
          | some call =>
              { reading with
                fields :=
                  reading.fields ++ (Field.ofCall? modelName reading.literals name call).toList }
          | none => { reading with literals := KeyMap.insert name value reading.literals }
  | _ => reading

/-- The model that a class statement defines: some base of it must be called `Model`. -/
def ofClass? (decl : Python.ClassDecl) : Option Model :=
  if decl.bases.any fun base => base.simpleName? == some "Model" then
    some {
      name := decl.name
      fields := (decl.body.foldl (read decl.name) {}).fields
      description := Python.docstring? decl.body }
  else none

/-- The fields that refer to other models. -/
def relationships (model : Model) : List Field := model.fields.filter Field.isRelationship

end Model

end RouteAtlas.Django
