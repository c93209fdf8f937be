/-
Module: RouteAtlas.Json.Text
Layer: Json
Purpose: JSON values as text over several lines, with an indentation of two spaces for each nesting.
Trusted boundary: none
Main exports: quoted, indented
-/
import RouteAtlas.Json.Value

namespace RouteAtlas.Json

/-- The last `width` digits of a number to base 16, in small letters. -/
def hexDigits : (width value : Nat) → List Char
  | 0, _ => []
  | width + 1, value => hexDigits width (value / 16) ++ [Nat.digitChar (value % 16)]

/-- A character inside quotes. Only quotes, backslashes and control characters are escaped. -/
def escape (c : Char) : List Char :=
  if c = '"' then ['\\', '"']
  else if c = '\\' then ['\\', '\\']
  else if c = '\x08' then ['\\', 'b']
  else if c = '\x0c' then ['\\', 'f']
  else if c = '\n' then ['\\', 'n']
  else if c = '\r' then ['\\', 'r']
  else if c = '\t' then ['\\', 't']
  else if c.toNat < 32 then ['\\', 'u'] ++ hexDigits 4 c.toNat
  else [c]

/-- A text in quotes. -/
def quoted (text : String) : List Char := ['"'] ++ text.toList.flatMap escape ++ ['"']

/-- A line break and the indentation of the new line. -/
def newLine (depth : Nat) : List Char := '\n' :: List.replicate (2 * depth) ' '

mutual

/-- The text of a value whose brackets stand at the given depth. -/
def render (depth : Nat) : Json → List Char
  | .null => "null".toList
  | .bool true => "true".toList
  | .bool false => "false".toList
  | .integer value => (toString value).toList
  | .decimal numeral => numeral.toList
  | .text value => quoted value
  | .array [] => ['[', ']']
  | .array (item :: rest) =>
      ['['] ++ newLine (depth + 1) ++ render (depth + 1) item ++ renderItems (depth + 1) rest ++
        newLine depth ++ [']']
  | .object [] => ['{', '}']
  | .object ((name, value) :: rest) =>
      ['{'] ++ newLine (depth + 1) ++ quoted name ++ [':', ' '] ++ render (depth + 1) value ++
        renderMembers (depth + 1) rest ++ newLine depth ++ ['}']

/-- The items of an array after the first one. -/
def renderItems (depth : Nat) : List Json → List Char
  | [] => []
  | item :: rest => [','] ++ newLine depth ++ render depth item ++ renderItems depth rest

/-- The members of an object after the first one. -/
def renderMembers (depth : Nat) : List (String × Json) → List Char
  | [] => []
  | (name, value) :: rest =>
      [','] ++ newLine depth ++ quoted name ++ [':', ' '] ++ render depth value ++
        renderMembers depth rest

end

/-- The text of a value over several lines. -/
def indented (value : Json) : String := String.ofList (render 0 value)

end RouteAtlas.Json
