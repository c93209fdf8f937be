/-
Module: RouteAtlas.Json.Value
Layer: Json
Purpose: JSON values. The members of an object keep their order, which is the order in which they are
  written.
Trusted boundary: none
Main exports: Json, Json.depth, Json.fields?, Json.text?, Json.optional?, Json.list?, Json.map?
-/
import RouteAtlas.Data.KeyMap

namespace RouteAtlas

/-- A JSON value. A number that is written with a fraction or an exponent is no integer, whatever its
value is, and keeps its text. -/
inductive Json where
  | null
  | bool (value : Bool)
  | integer (value : Int)
  | decimal (numeral : String)
  | text (value : String)
  | array (items : List Json)
  | object (members : List (String × Json))
deriving Inhabited

namespace Json

/-- A natural number. -/
def natural (value : Nat) : Json := .integer value

mutual

/-- How deep arrays and objects are nested in a value. -/
def depth : Json → Nat
  | .array items => depthOfItems items + 1
  | .object members => depthOfMembers members + 1
  | _ => 0

/-- The greatest depth of some values. -/
def depthOfItems : List Json → Nat
  | [] => 0
  | item :: rest => max item.depth (depthOfItems rest)

/-- The greatest depth of the values of some members. -/
def depthOfMembers : List (String × Json) → Nat
  | [] => 0
  | (_, value) :: rest => max value.depth (depthOfMembers rest)

end

/-- The values of the fields of a record, `null` standing for a missing one. A record is written as
an object, whose other members are ignored, or as the array of its fields. -/
def fields? (names : List String) : Json → Option (List Json)
  | .object members => some (names.map fun name => (KeyMap.find? name members).getD .null)
  | .array items => if items.length = names.length then some items else none
  | _ => none

/-- A text. -/
def text? : Json → Option String
  | .text value => some value
  | _ => none

/-- A truth value. -/
def bool? : Json → Option Bool
  | .bool value => some value
  | _ => none

/-- A natural number that fits into 64 bits. -/
def word64? : Json → Option Nat
  | .integer (.ofNat value) => if value < Nat.pow 2 64 then some value else none
  | _ => none

/-- A value that may be `null`, as `read` reads it. -/
def optional? {α : Type} (read : Json → Option α) : Json → Option (Option α)
  | .null => some none
  | value => (read value).map some

/-- The items of an array, as `read` reads them. -/
def list? {α : Type} (read : Json → Option α) : Json → Option (List α)
  | .array items => items.mapM read
  | _ => none

/-- The members of an object as a map, with values as `read` reads them. -/
def map? {α : Type} (read : Json → Option α) : Json → Option (KeyMap α)
  | .object members =>
      (members.mapM fun member => (read member.2).map fun value => (member.1, value)).map
        KeyMap.ofList
  | _ => none

end Json

end RouteAtlas
