/-
Module: RouteAtlas.Url.Template
Layer: Url
Purpose: From the path of a route, as a framework writes it, to a path template with placeholders
  such as {name}. Regular expressions lose their anchors and backslashes, and their named groups become
  placeholders; so do parameters in angle brackets. Last, runs of slashes become one.
Trusted boundary: none
Main exports: replaceGroups, templateChars, placeholders, template, parametersOf
-/
import RouteAtlas.Text.Sift

namespace RouteAtlas.Url

/-- A placeholder of the given name. -/
def placeholder (name : List Char) : List Char := ['{'] ++ name ++ ['}']

/-- The text after the parenthesis that closes a group, `depth` parentheses being open. A character
after a backslash opens and closes nothing. -/
def afterGroup (depth : Nat) : List Char → List Char
  | [] => []
  | '\\' :: [] => []
  | '\\' :: _ :: rest => afterGroup depth rest
  | '(' :: rest => afterGroup (depth + 1) rest
  | ')' :: rest => if depth ≤ 1 then rest else afterGroup (depth - 1) rest
  | _ :: rest => afterGroup depth rest

/-- What a regular expression says outside its groups: a character after a backslash is itself, and
a named group `(?P<name>...)` is a placeholder. -/
def groupRule : Text.Rule (List Char) := fun chars =>
  match chars with
  | '\\' :: c :: _ => some (1, [c])
  | '(' :: '?' :: 'P' :: '<' :: rest =>
      let name := rest.takeWhile (· ≠ '>')
      match rest.drop name.length with
      | [] => none
      | _ :: body => some (chars.length - (afterGroup 1 body).length - 1, placeholder name)
  | _ => none

/-- Replace named groups by placeholders and drop backslashes. -/
def replaceGroups (path : List Char) : List Char := Text.replace groupRule path

/-- The names of the built-in converters. -/
def converters : List String := ["int", "str", "slug", "uuid", "path", "float", "string"]

/-- A parameter `<converter:name>` with a built-in converter. -/
def converterRule : Text.Rule (List Char) := fun chars =>
  match chars with
  | '<' :: rest =>
      converters.findSome? fun converter =>
        match Text.dropPrefix? (converter.toList ++ [':']) rest with
        | none => none
        | some named =>
            (Text.inside? '>' named).map fun name =>
              (converter.length + 1 + name.length + 1, placeholder name)
  | _ => none

/-- The name of a parameter without its converter. Both sides of the colon must be there. -/
def withoutConverter (parameter : List Char) : List Char :=
  let converter := parameter.takeWhile (· ≠ ':')
  let name := parameter.drop (converter.length + 1)
  if converter.isEmpty || name.isEmpty then parameter else name

/-- Any parameter in angle brackets. -/
def angleRule : Text.Rule (List Char) := fun chars =>
  match chars with
  | '<' :: rest =>
      (Text.inside? '>' rest).map fun parameter =>
        (parameter.length + 1, placeholder (withoutConverter parameter))
  | _ => none

/-- Make every run of slashes one slash. -/
def collapseSlashes : List Char → List Char
  | [] => []
  | c :: rest =>
      if c = '/' && rest.head? = some '/' then collapseSlashes rest
      else c :: collapseSlashes rest

/-- The template of a path. -/
def templateChars (path : List Char) : List Char :=
  let unanchored := path.filter fun c => c ≠ '^' && c ≠ '$'
  let replaced :=
    Text.replace angleRule (Text.replace converterRule (replaceGroups unanchored))
  '/' :: (collapseSlashes replaced).dropWhile (· = '/')

/-- A placeholder in a template. Neither a closing brace nor a slash may stand in its name. -/
def placeholderRule : Text.Rule (List Char) := fun chars =>
  match chars with
  | '{' :: rest =>
      let name := rest.takeWhile fun c => c ≠ '}' && c ≠ '/'
      if !name.isEmpty && (rest.drop name.length).head? = some '}' then
        some (name.length + 1, name)
      else none
  | _ => none

/-- The names of the placeholders of a template, each once, in order of first occurrence. -/
def placeholders (template : List Char) : List (List Char) :=
  (Text.finds placeholderRule template).foldl
    (fun names name => if names.contains name then names else names ++ [name]) []

/-- The template of a native path. -/
def template (path : String) : String := String.ofList (templateChars path.toList)

/-- The parameter names of a template. -/
def parametersOf (template : String) : List String :=
  (placeholders template.toList).map String.ofList

end RouteAtlas.Url
