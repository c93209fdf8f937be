/-
Module: RouteAtlas.Files.Source
Layer: Files
Purpose: Source files on a disk, read as syntax trees, and what is told to a user when one cannot be
  read or found.
Trusted boundary: none
Main exports: SourceError, SourceError.message, SourceError.cause?, Disk.parseFile, Warning,
  Warning.message
-/
import RouteAtlas.Files.Disk
import RouteAtlas.Python.Parser

namespace RouteAtlas

/-- Why a source file or what an argument names cannot be used. -/
inductive SourceError where
  | unreadable (file : DiskPath) (cause : DiskError)
  | unparsable (file : DiskPath) (reason : String)
  | unresolved (module : String) (file : DiskPath)
  | invalidArgument (reason : String)
deriving DecidableEq, Repr, Inhabited

namespace SourceError

/-- What a user is told. -/
def message : SourceError → String
  | unreadable file cause => "I/O error reading " ++ file.text ++ ": " ++ cause.message
  | unparsable file reason => "Could not parse " ++ file.text ++ ": " ++ reason
  | unresolved module file =>
      "Could not resolve module '" ++ module ++ "' (referenced from " ++ file.text ++ ")"
  | invalidArgument reason => "Invalid argument: " ++ reason

/-- The error of the disk behind an error. -/
def cause? : SourceError → Option DiskError
  | unreadable _ cause => some cause
  | _ => none

end SourceError

/-- The syntax tree of a source text; `file` is named in the error. -/
def parseText (file : DiskPath) (source : String) : Except SourceError Python.Module :=
  match Python.parse source with
  | .ok body => .ok body
  | .error error => .error (.unparsable file error.message)

/-- The syntax tree of a source file. -/
def Disk.parseFile (disk : Disk) (file : DiskPath) : Except SourceError Python.Module :=
  match disk.readText file with
  | .error error => .error (.unreadable file error)
  | .ok source => parseText file source

/-- What a user is told while the work goes on without a part of the project. -/
inductive Warning where
  | source (error : SourceError)
  | skipped (file : DiskPath) (cause : DiskError)
  | noRoutes
deriving DecidableEq, Repr, Inhabited

/-- The text of a warning. -/
def Warning.message : Warning → String
  | .source error => error.message
  | .skipped file cause => "Skipping " ++ file.text ++ ": " ++ cause.message
  | .noRoutes => "No routes found in the project"

/-- Parse several files, with a warning for each that fails. -/
def Disk.parseFiles (disk : Disk) (files : List DiskPath) :
    List (Except SourceError Python.Module) × List Warning :=
  let results := files.map disk.parseFile
  (results, results.filterMap fun result =>
    match result with
    | .ok _ => none
    | .error error => some (.source error))

end RouteAtlas
