/-
Module: RouteAtlas.Project.Detection
Layer: Project
Purpose: Which framework a project uses, and which file its routes start in.
Trusted boundary: none
Main exports: Undetected, Undetected.message, detectFramework, entryFile
-/
import RouteAtlas.Framework
import RouteAtlas.Files.Source
import RouteAtlas.Project.Listing

namespace RouteAtlas.Project

/-- Why the framework of a project is not known. -/
inductive Undetected where
  | notDirectory (error : NotDirectory)
  | noFramework
  | several (frameworks : List Framework)
deriving DecidableEq, Repr, Inhabited

/-- What a user is told. -/
def Undetected.message : Undetected → String
  | .notDirectory error => error.message
  | .noFramework =>
      "No supported web framework detected. Please specify one using --framework.\n" ++
        "Supported frameworks: django, flask"
  | .several frameworks =>
      "Found both [" ++ Text.join ", " (frameworks.map Framework.title) ++
        "]; please choose one using --framework"

/-- Whether a source text can import a framework. -/
def mayImportFramework (source : String) : Bool :=
  Text.mentions source "django" || Text.mentions source "flask"

/-- Whether a file can be read and can import a framework. -/
def isCandidate (disk : Disk) (file : DiskPath) : Bool :=
  match disk.readText file with
  | .ok source => mayImportFramework source
  | .error _ => false

/-- The framework of all files of a project that can import one. -/
def detectInFiles (disk : Disk) (files : List DiskPath) :
    Except Undetected Framework × List Warning :=
  let (results, warnings) := disk.parseFiles (files.filter (isCandidate disk))
  let found := Framework.detect (results.filterMap Except.toOption)
  let answer :=
    match Framework.single? found with
    | some framework => .ok framework
    | none => .error (if found.isEmpty then .noFramework else .several found)
  (answer, warnings)

/-- The framework that a file decides on by itself, if it can be read. -/
def detectInEntry (disk : Disk) (endpoint : DiskPath) : Option Framework × List Warning :=
  if disk.isFile endpoint then
    match disk.parseFile endpoint with
    | .ok body => (Framework.single? (Framework.detect [body]), [])
    | .error error => (none, [.source error])
  else (none, [])

/-- The framework of a project: that of its entry file, or else that of all its files. -/
def detectFramework (disk : Disk) (endpoint root : DiskPath) :
    Except Undetected Framework × List Warning :=
  match detectInEntry disk endpoint with
  | (some framework, warnings) => (.ok framework, warnings)
  | (none, warnings) =>
      match pythonFiles disk root with
      | .error error => (.error (.notDirectory error), warnings)
      | .ok files =>
          let (answer, more) := detectInFiles disk files
          (answer, warnings ++ more)

/-- The file in which the routes of a project start: the endpoint itself, or a file with one of the
usual names in it. -/
def entryFile (disk : Disk) (endpoint : DiskPath) (framework : Framework) :
    Except SourceError DiskPath :=
  if disk.isFile endpoint then .ok endpoint
  else
    match (framework.entryNames.map endpoint.join).find? disk.isFile with
    | some file => .ok file
    | none =>
        .error <| .invalidArgument <| endpoint.text ++ " contains none of " ++
          Text.join ", " framework.entryNames ++ " for " ++ framework.title

end RouteAtlas.Project
