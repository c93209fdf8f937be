/-
Module: RouteAtlas.Framework
Layer: Framework
Purpose: The supported frameworks: how each is recognised by the imports of a file, and how the routes
  of a file are read in its terms.
Trusted boundary: none
Main exports: Framework, Framework.findings, Framework.ofModule?, detect, single?
-/
import RouteAtlas.Django.UrlConf
import RouteAtlas.Flask.Application

namespace RouteAtlas

/-- A web framework. -/
inductive Framework where
  | django
  | flask
deriving DecidableEq, Repr, Inhabited

namespace Framework

/-- All frameworks in alphabetical order. -/
def all : List Framework := [django, flask]

/-- The name of a framework as its users write it. -/
def title : Framework → String
  | django => "Django"
  | flask => "Flask"

/-- The name of a framework in an option. -/
def name : Framework → String
  | django => "django"
  | flask => "flask"

/-- The framework of a name. -/
def parse? (text : String) : Option Framework := all.find? fun framework => framework.name == text

/-- The base path of a service, unless another one is asked for. -/
def defaultBasePath : Framework → String
  | django => "/proxy/django"
  | flask => "/proxy/flask"

/-- The files in a directory that can be its entry, the likeliest first. -/
def entryNames : Framework → List String
  | django => ["urls.py"]
  | flask => ["app.py", "main.py", "wsgi.py", "__init__.py"]

/-- What a file says about routes. Only `flask` distinguishes the objects of a file. -/
def findings (framework : Framework) (scope : Scope) (body : Python.Module) :
    Except Django.CyclicPatterns Findings :=
  match framework with
  | django => Django.findings body
  | flask => .ok (Flask.findings scope body)

/-- The framework that a module belongs to, by its top package. -/
def ofModule? (module : String) : Option Framework :=
  match Text.firstPiece '.' module with
  | "django" => some django
  | "rest_framework" => some django
  | "flask" => some flask
  | _ => none

/-- The frameworks that the imports of a file belong to. Relative imports are of the project. -/
def ofImports (body : Python.Module) : List Framework :=
  ((KeyMap.values (Python.imports body)).filter fun imported => imported.level == 0).filterMap
    fun imported => ofModule? imported.module

/-- The frameworks that some files use, each once. -/
def detect (files : List Python.Module) : List Framework :=
  let found := files.flatMap ofImports
  all.filter found.contains

/-- The one framework among those found, if there is exactly one. -/
def single? : List Framework → Option Framework
  | [framework] => some framework
  | _ => none

end Framework

end RouteAtlas
