/-
Module: RouteAtlas.Naming.OperationId
Layer: Naming
Purpose: Identifiers of operations, made of the method, the view and the path. One that would be too
  long is made of the first path segment and a hash of the path instead, and cut if even that is too
  long.
Trusted boundary: none
Main exports: maxLength, viewName, pathWords, operationId
-/
import RouteAtlas.Naming.Casing
import RouteAtlas.Digest.Blake3
import RouteAtlas.Text.Split

namespace RouteAtlas.Naming

/-- The greatest length of an identifier in bytes. -/
def maxLength : Nat := 64

/-- The name of a view without what its framework adds at the end. -/
def viewName (view : String) : String :=
  let plain := String.ofList (view.toList.takeWhile fun c => c ≠ '.' && c ≠ '(')
  (["ViewSet", "View", "APIView"].findSome? fun tail => Text.withoutSuffix? tail plain).getD plain

/-- A placeholder of a path template. -/
def placeholderRule : Text.Rule (List Char) := fun chars =>
  match chars with
  | '{' :: rest => (Text.inside? '}' rest).map fun name => (name.length + 1, [])
  | _ => none

/-- Make every run of underscores one underscore. -/
def collapseUnderscores : List Char → List Char
  | [] => []
  | c :: rest =>
      if c = '_' && rest.head? = some '_' then collapseUnderscores rest
      else c :: collapseUnderscores rest

/-- A path segment as a word of small letters, digits and underscores, with no underscore at its
ends. -/
def segmentWord (segment : List Char) : List Char :=
  let snake := (snakeCase (String.ofList segment)).toList
  let plain := snake.map fun c => if c.isLower || c.isDigit || c = '_' then c else '_'
  let collapsed := collapseUnderscores plain
  ((collapsed.dropWhile (· = '_')).reverse.dropWhile (· = '_')).reverse

/-- The words of a path, without its placeholders. -/
def pathWords (path : String) : List String :=
  let pieces := Text.splitAt '/' (Text.replace placeholderRule path.toList)
  ((pieces.map segmentWord).filter (!·.isEmpty)).map String.ofList

/-- Join the parts that are not empty. -/
def joinParts (parts : List String) : String := Text.join "_" (parts.filter (· ≠ ""))

/-- An identifier does not begin with a digit. -/
def guardDigit (id : String) : String :=
  if id.toList.head?.any Char.isDigit then "op_" ++ id else id

/-- The identifier of an operation. -/
def operationId (method path : String) (view : Option String) : String :=
  let verb := Text.lowercase method
  let viewPart := snakeCase (viewName (view.getD ""))
  let words := pathWords path
  let pathPart := Text.join "_" words
  let full := guardDigit (joinParts [verb, viewPart, pathPart])
  if full.utf8ByteSize ≤ maxLength then full
  else
    let digest := String.ofList ((Digest.Blake3.hexDigest pathPart).take 8)
    let short := joinParts [verb, viewPart, words.head?.getD "", digest]
    if short.utf8ByteSize ≤ maxLength then short
    else String.ofList (full.toList.take maxLength)

end RouteAtlas.Naming
