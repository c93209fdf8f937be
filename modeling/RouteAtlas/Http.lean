/-
Module: RouteAtlas.Http
Layer: Http
Purpose: The request methods that an operation can have.
Trusted boundary: none
Main exports: Method, Method.parse?, Method.name, Method.title, Method.parseAll
-/
import RouteAtlas.Text.Case

namespace RouteAtlas

/-- A request method. -/
inductive Method where
  | get
  | post
  | put
  | delete
  | patch
  | options
  | head
deriving DecidableEq, Repr, Inhabited

namespace Method

/-- The methods in the order in which a document lists them. -/
def all : List Method := [get, post, put, delete, patch, options, head]

/-- The name in small letters. -/
def name : Method → String
  | get => "get"
  | post => "post"
  | put => "put"
  | delete => "delete"
  | patch => "patch"
  | options => "options"
  | head => "head"

/-- The name in capitals. -/
def title : Method → String
  | get => "GET"
  | post => "POST"
  | put => "PUT"
  | delete => "DELETE"
  | patch => "PATCH"
  | options => "OPTIONS"
  | head => "HEAD"

/-- The method of a name in any case. -/
def parse? (verb : String) : Option Method :=
  all.find? fun method => method.name == Text.asciiLowercase verb

/-- The methods of some names, each once, in order of first occurrence. Unknown names are passed
over. -/
def parseAll (verbs : List String) : List Method :=
  (verbs.filterMap parse?).foldl
    (fun methods method => if methods.contains method then methods else methods ++ [method]) []

/-- Every method is found by its name. -/
theorem parse?_name (method : Method) : parse? method.name = some method := by
  cases method <;> decide

end Method

end RouteAtlas
