/-
Module: RouteAtlas.CommandLine.Run
Layer: CommandLine
Purpose: The whole program as a function of a disk and arguments: find the framework and the entry
  file, collect the routes, make the document and write it.
Trusted boundary: none
Main exports: Failure, Failure.message, Run, checkArguments, makeDocument, writeOutput, Outcome, run
-/
import RouteAtlas.CommandLine.Arguments
import RouteAtlas.Json.Text
import RouteAtlas.OpenApi.Draft
import RouteAtlas.OpenApi.Encoding
import RouteAtlas.Project.Detection
import RouteAtlas.Project.Walk
import RouteAtlas.Yaml.Block

namespace RouteAtlas.CommandLine

open OpenApi (Document Draft)
open Project (Inventory NotDirectory SearchPath Site Undetected)

/-- Why the program gives up. -/
inductive Failure where
  | source (error : SourceError)
  | undetected (error : Undetected)
  | notIndexed (root : DiskPath) (error : NotDirectory)
  | cyclicPatterns (cycle : Django.CyclicPatterns)
  | directoryNotMade (path : DiskPath) (cause : DiskError)
  | notWritten (path : DiskPath) (cause : DiskError)
deriving DecidableEq, Repr, Inhabited

/-- What a user is told. -/
def Failure.message : Failure → String
  | .source error => error.message
  | .undetected error => error.message
  | .notIndexed root error => "Failed to index " ++ root.text ++ ": " ++ error.message
  | .cyclicPatterns cycle => cycle.message
  | .directoryNotMade path cause =>
      "Failed to create directory: " ++ path.text ++ ": " ++ cause.message
  | .notWritten path cause => "Failed to write to file: " ++ path.text ++ ": " ++ cause.message

/-- Computations that may give up, and that warn a user on the way. -/
abbrev Run := ExceptT Failure (StateM (List Warning))

/-- Warn a user. -/
def warn (warnings : List Warning) : Run Unit := modify fun told => told ++ warnings

/-- Give up if there is an error. -/
def orFail {ε α : Type} (failure : ε → Failure) (result : Except ε α) : Run α :=
  match result with
  | .ok value => pure value
  | .error error => throw (failure error)

/-- The endpoint must be there, and the root of the project must be a directory. -/
def checkArguments (disk : Disk) (arguments : Arguments) : Except SourceError Unit :=
  if !disk.isPresent arguments.endpoint then
    .error (.invalidArgument ("Endpoint path does not exist: " ++ arguments.endpoint.text))
  else if !disk.isDirectory arguments.projectRoot then
    .error <| .invalidArgument <|
      "Project root is not a directory: " ++ arguments.projectRoot.text
  else .ok ()

/-- The framework that was asked for, or that of the project. -/
def chooseFramework (disk : Disk) (arguments : Arguments) : Run Framework :=
  match arguments.framework with
  | some framework => return framework
  | none => do
      let (answer, warnings) :=
        Project.detectFramework disk arguments.endpoint arguments.projectRoot
      warn warnings
      orFail .undetected answer

/-- What a document is called. Only applications of one framework have names. -/
def documentTitle (framework : Framework) (appName : Option String) : String :=
  match framework with
  | .django => "DjangoApp"
  | .flask => appName.getD "FlaskApp"

/-- The document for some routes. -/
def assemble (arguments : Arguments) (framework : Framework) (inventory : Inventory)
    (appName : Option String) (routes : List Route) : Document :=
  let known := if arguments.inferSchemas then some inventory else none
  let draft : Draft := {
    info := ⟨documentTitle framework appName, "1.0.0", none⟩
    servers := [⟨arguments.basePath.getD framework.defaultBasePath, OpenApi.serverDescription⟩] }
  let routed := draft.addRoutes known routes
  (known.elim routed routed.addEndpoints).document known

/-- The document for a project. -/
def makeDocument (disk : Disk) (arguments : Arguments) : Run Document := do
  let framework ← chooseFramework disk arguments
  let entry ← orFail .source (Project.entryFile disk arguments.endpoint framework)
  let root := arguments.projectRoot
  let (inventory, warnings) ← orFail (.notIndexed root) (Inventory.ofProject disk root)
  warn warnings
  let site : Site := {
    disk := disk
    modules := SearchPath.ofProject root entry arguments.searchPaths
    inventory := inventory
    read := framework.findings }
  let (routes, progress) := (site.walk entry "").run {}
  warn progress.warnings
  match progress.cycle with
  | some cycle => throw (.cyclicPatterns cycle)
  | none =>
      if routes.isEmpty then warn [.noRoutes]
      return assemble arguments framework inventory progress.appName routes

/-- A document as text. -/
def documentText (format : Format) (document : Document) : String :=
  match format with
  | .json => Json.indented document.toJson
  | .yaml => Yaml.document document.toJson

/-- Write a text to a file, and make the directories that it is in. -/
def writeOutput (disk : Disk) (path : DiskPath) (text : String) : Except Failure Disk :=
  let directory := path.parent?.filter fun parent => parent.text ≠ ""
  let made : Except Failure Disk :=
    match directory with
    | none => .ok disk
    | some parent => (disk.makeDirectories parent).mapError (.directoryNotMade parent)
  made.bind fun disk => (disk.write path text.toUTF8).mapError (.notWritten path)

/-- What a run that came to its end leaves behind: the disk, and what it printed. -/
structure Outcome where
  disk : Disk
  printed : String
deriving Inhabited

/-- Run the program. -/
def run (disk : Disk) (arguments : Arguments) : Run Outcome := do
  orFail .source (checkArguments disk arguments)
  let document ← makeDocument disk arguments
  let written ←
    orFail id (writeOutput disk arguments.output (documentText arguments.format document))
  let printed :=
    "Found " ++ toString document.operationCount ++ " routes\n" ++
      "OpenAPI spec written to " ++ arguments.output.text ++ "\n"
  return ⟨written, printed⟩

end RouteAtlas.CommandLine
