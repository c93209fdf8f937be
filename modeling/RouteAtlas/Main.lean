/-
Module: RouteAtlas.Main
Layer: Program
Purpose: The command line. The directories that the arguments name are read into a disk, the program
  runs on that disk, and the file that it wrote there is written to the real one.
Trusted boundary: reads and writes files, prints
Main exports: readDisk, writeFile, main
-/
import RouteAtlas.CommandLine.Run

namespace RouteAtlas.Program

open CommandLine (Arguments UsageError)

/-! ### Reading the disk -/

/-- A file or directory that is to be read, and how many levels of directories below it. -/
structure Place where
  path : String
  depth : Nat

/-- The levels that are read of a directory that the arguments name. -/
def namedDepth : Nat := 64

/-- The levels that are read of the directory around the project, in which modules are looked up
too. -/
def aroundDepth : Nat := 4

/-- The names that lead to a path without links. -/
def locationOf (path : String) : Location := (Text.split '/' path).filter (· ≠ "")

/-- The absolute path without links of a path, if it leads anywhere. -/
def realPath? (path : String) : IO (Option String) := do
  try
    return some (← IO.FS.realPath path).toString
  catch _ => return none

/-- What has been read: the tree, the places that are in it, and those that links lead to. -/
structure Reading where
  tree : FileTree := .directory []
  done : List Place := []
  links : List Place := []

/-- Computations that read the disk. -/
abbrev Read := StateT Reading IO

/-- Put a node into the tree. -/
def place (node : FileTree) (location : Location) : Read Unit :=
  modify fun reading => { reading with tree := reading.tree.put node location }

/-- Put a node into the tree where there is none. -/
def placeIfAbsent (node : FileTree) (location : Location) : Read Unit := do
  if ((← get).tree.at? location).isNone then place node location

/-- Put a file with its bytes into the tree, if it can be read. -/
def placeFile (path : String) (location : Location) : Read Unit := do
  try
    let content ← IO.FS.readBinFile path
    place (.file content) location
  catch _ => pure ()

/-- Read a directory. Of the files in it the Python ones alone are read. What cannot be read is left
out. -/
def readDirectory (directory : String) (location : Location) : (depth : Nat) → Read Unit
  | 0 => placeIfAbsent (.directory []) location
  | depth + 1 => do
      placeIfAbsent (.directory []) location
      let children ← try ((← IO.currentDir) / directory).readDir catch _ => pure #[]
      for child in children do
        let path := child.path.toString
        let below := location ++ [child.fileName]
        let kind? ←
          try pure (some (← child.path.symlinkMetadata).type) catch _ => pure none
        match kind? with
        | some .dir => readDirectory path below depth
        | some .file =>
            if extension? child.fileName = some "py" then placeFile path below
            else placeIfAbsent (.file .empty) below
        | some .symlink =>
            if let some target ← realPath? path then
              place (.link target) below
              modify fun reading => { reading with links := ⟨target, depth⟩ :: reading.links }
        | _ => pure ()

/-- Put the links into the tree that a path passes through. -/
def readLinks (path : DiskPath) : Read Unit := do
  let mut passed : DiskPath := ⟨if path.isAbsolute then "/" else "."⟩
  for piece in Text.split '/' path.text do
    if piece ≠ "" then
      let next := passed.join piece
      if piece ≠ "." && piece ≠ ".." then
        let ends := (← realPath? passed.text, ← realPath? next.text)
        if let (some directory, some target) := ends then
          let location := locationOf directory ++ [piece]
          if location ≠ locationOf target then place (.link target) location
      passed := next

/-- Read a place, unless it has been read at least as deep. -/
def readPlace (wanted : Place) : Read Unit := do
  readLinks ⟨wanted.path⟩
  if let some path ← realPath? wanted.path then
    let isKnown := (← get).done.any fun old => old.path == path && wanted.depth ≤ old.depth
    if !isKnown then
      modify fun reading => { reading with done := ⟨path, wanted.depth⟩ :: reading.done }
      if ← ((← IO.currentDir) / path).isDir then
        readDirectory path (locationOf path) wanted.depth
      else placeFile path (locationOf path)

/-- Read places, and whatever is linked to from them. -/
partial def readPlaces : List Place → Read Unit
  | [] => do
      let links := (← get).links
      unless links.isEmpty do
        modify fun reading => { reading with links := [] }
        readPlaces links
  | wanted :: rest => do
      readPlace wanted
      readPlaces rest

/-- The directory that a path is in. -/
def directoryOf (path : DiskPath) : DiskPath :=
  (⟨"."⟩ : DiskPath).join (path.parent?.elim "" (·.text))

/-- The disk that a run sees. -/
def readDisk (arguments : Arguments) : IO Disk := do
  let root := arguments.projectRoot
  let entry := arguments.endpoint
  let isFile := !(← ((← IO.currentDir) / entry.text).isDir)
  let around := if isFile then [directoryOf entry] else []
  let named := [root, entry] ++ around ++ arguments.searchPaths
  let places : List Place :=
    named.map (⟨·.text, namedDepth⟩) ++
      [⟨(directoryOf root).text, aroundDepth⟩, ⟨(directoryOf arguments.output).text, 1⟩]
  let (_, reading) ← (readPlaces places).run {}
  let working := (← realPath? ".").getD "/"
  return ⟨reading.tree, locationOf working⟩

/-! ### Running -/

/-- Write the file that a run has written to its disk. -/
def writeFile (path : DiskPath) (disk : Disk) : IO Unit := do
  match disk.readBytes path with
  | .error error => throw (IO.userError error.message)
  | .ok content =>
      if let some parent := path.parent? then
        if parent.text ≠ "" then IO.FS.createDirAll parent.text
      IO.FS.writeBinFile path.text content

/-- The words that the program understands. -/
def usage : String :=
  "Usage: route-atlas --endpoint <PATH> --output <FILE> [OPTIONS]\n\n" ++
  "  -e, --endpoint <PATH>      the file or directory where the routes start\n" ++
  "  -o, --output <FILE>        the file that the document is written to\n" ++
  "  -r, --project-root <DIR>   the root of the project [default: .]\n" ++
  "  -w, --framework <NAME>     django or flask; detected if absent\n" ++
  "  -f, --format <NAME>        json or yaml [default: json]\n" ++
  "      --base-path <URL>      the URL of the server\n" ++
  "      --search-path <DIR>    a directory to look up modules in; may be repeated\n" ++
  "      --infer-schemas        describe the models of the project\n" ++
  "      --debug                accepted; a run has nothing more to tell\n" ++
  "  -h, --help                 print this text\n" ++
  "  -V, --version              print the version\n"

/-- What is wrong with the words of a command line. -/
def complaint : UsageError → String
  | .missingRequired => "an endpoint and an output are required"
  | .invalidValue => "a value is missing or not one of those that are allowed"
  | .unknownArgument => "an argument is not known"
  | .conflict => "an option was given twice"
  | .tooManyValues => "an option without a value was given one"
  | .helpWanted | .versionWanted => ""

/-- Run the program and tell how it went. -/
def runOn (arguments : Arguments) : IO UInt32 := do
  let (result, warnings) := (CommandLine.run (← readDisk arguments) arguments).run.run []
  for warning in warnings do
    IO.eprintln ("warning: " ++ warning.message)
  match result with
  | .error failure =>
      IO.eprintln ("error: " ++ failure.message)
      return 1
  | .ok outcome =>
      writeFile arguments.output outcome.disk
      IO.print outcome.printed
      return 0

end RouteAtlas.Program

/-- The program. -/
def main (words : List String) : IO UInt32 :=
  match RouteAtlas.CommandLine.readArguments words with
  | .ok arguments => RouteAtlas.Program.runOn arguments
  | .error .helpWanted => do
      IO.print RouteAtlas.Program.usage
      return 0
  | .error .versionWanted => do
      IO.println "route-atlas 0.1.0"
      return 0
  | .error error => do
      IO.eprintln ("error: " ++ RouteAtlas.Program.complaint error)
      IO.eprint RouteAtlas.Program.usage
      return 2
