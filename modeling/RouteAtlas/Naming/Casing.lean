/-
Module: RouteAtlas.Naming.Casing
Layer: Naming
Purpose: Words inside a name that is written in one piece with capitals, and the forms of such names
  with hyphens or underscores. Only the letters `A` to `Z` and `a` to `z` mark words.
Trusted boundary: none
Main exports: capitalWord, caseBoundary, hyphenate, endpointName, snakeCase
-/
import RouteAtlas.Text.Sift
import RouteAtlas.Naming.Plural

namespace RouteAtlas.Naming

/-- A capital with small letters after it, and the character before it: a hyphen parts them. -/
def capitalWord : Text.Rule (List Char) := fun chars =>
  match chars with
  | before :: capital :: rest =>
      let small := rest.takeWhile Char.isLower
      if before ≠ '\n' && capital.isUpper && !small.isEmpty then
        some (small.length + 1, before :: '-' :: capital :: small)
      else none
  | _ => none

/-- A small letter or a digit with a capital after it: `mark` parts them. -/
def caseBoundary (mark : Char) : Text.Rule (List Char) := fun chars =>
  match chars with
  | before :: capital :: _ =>
      if (before.isLower || before.isDigit) && capital.isUpper then
        some (1, [before, mark, capital])
      else none
  | _ => none

/-- Put a hyphen before every capital that begins a word. -/
def hyphenate (name : List Char) : List Char :=
  Text.replace (caseBoundary '-') (Text.replace capitalWord name)

/-- The path segment of a resource: its name in lower case with hyphens, in the plural. -/
def endpointName (modelName : String) : String :=
  pluralize (Text.lowercase (String.ofList (hyphenate modelName.toList)))

/-- The form of a name with underscores. -/
def snakeCase (name : String) : String :=
  Text.lowercase (String.ofList (Text.replace (caseBoundary '_') name.toList))

end RouteAtlas.Naming
