/-
Module: RouteAtlas.Yaml.Block
Layer: Yaml
Purpose: JSON values as YAML texts in block style. A mapping has a line for each key, with its value
  on the same line or indented below; the items of a sequence begin with a hyphen that is not
  indented any further than the key of the sequence.
Trusted boundary: none
Main exports: mappingLines, itemLines, document
-/
import RouteAtlas.Yaml.Scalar

namespace RouteAtlas.Yaml

/-- End a line, unless it has ended already. -/
def endLine (chars : List Char) : List Char :=
  if chars.getLast?.any isBreak then chars else chars ++ ['\n']

/-- A value that is written in place: a scalar, or an array or object without content. -/
def inline? (indent : Nat) : Json → Option (List Char)
  | .null => some "null".toList
  | .bool true => some "true".toList
  | .bool false => some "false".toList
  | .integer value => some (toString value).toList
  | .decimal numeral => some numeral.toList
  | .text value => some (scalar indent value)
  | .array [] => some ['[', ']']
  | .object [] => some ['{', '}']
  | _ => none

/-- A key with what precedes and follows it: it stands before its colon on one line, or after a
question mark on lines of its own. -/
def keyLines (indent : Nat) (name : String) : List Char :=
  let key := scalar (indent + 2) name
  if isSimpleKey name then key ++ [':']
  else ['?', ' '] ++ endLine key ++ pad indent ++ [':']

mutual

/-- A value after the colon of its key, which stands at `indent`. After a simple key lines go on below;
after any other one they go on beside the colon. -/
def valueLines (indent : Nat) (simple : Bool) : Json → List Char
  | .array (item :: rest) =>
      if simple then '\n' :: itemLines indent (item :: rest)
      else ' ' :: (itemLines (indent + 2) (item :: rest)).drop (indent + 2)
  | .object (member :: rest) =>
      if simple then '\n' :: mappingLines (indent + 2) (member :: rest)
      else ' ' :: (mappingLines (indent + 2) (member :: rest)).drop (indent + 2)
  | value => ' ' :: endLine ((inline? (indent + 2) value).getD [])

/-- The lines of a mapping. -/
def mappingLines (indent : Nat) : List (String × Json) → List Char
  | [] => []
  | (name, value) :: rest =>
      pad indent ++ keyLines indent name ++ valueLines indent (isSimpleKey name) value ++
        mappingLines indent rest

/-- The lines of a sequence. -/
def itemLines (indent : Nat) : List Json → List Char
  | [] => []
  | item :: rest => pad indent ++ '-' :: itemValue indent item ++ itemLines indent rest

/-- A value after the hyphen of an item. -/
def itemValue (indent : Nat) : Json → List Char
  | .array (item :: rest) =>
      ' ' :: (itemLines (indent + 2) (item :: rest)).drop (indent + 2)
  | .object (member :: rest) =>
      ' ' :: (mappingLines (indent + 2) (member :: rest)).drop (indent + 2)
  | value => ' ' :: endLine ((inline? (indent + 2) value).getD [])

end

/-- The text of a value. -/
def document : Json → String
  | .array (item :: rest) => String.ofList (itemLines 0 (item :: rest))
  | .object (member :: rest) => String.ofList (mappingLines 0 (member :: rest))
  | value => String.ofList (endLine ((inline? 2 value).getD []))

end RouteAtlas.Yaml
