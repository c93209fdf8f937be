/-
Module: RouteAtlas.Files.Disk
Layer: Files
Purpose: A disk as a program sees it: a tree and a working directory, which the program also finds at
  `/proc/self/cwd`. Paths are resolved piece by piece, through symbolic links, and every way in which
  that can fail is an error with the number that the operating system gives it.
Trusted boundary: none
Main exports: DiskError, DiskError.message, Disk, Disk.locate, Disk.canonical, Disk.isFile,
  Disk.isDirectory, Disk.isPresent, Disk.readText, Disk.makeDirectories, Disk.write
-/
import RouteAtlas.Files.DiskPath
import RouteAtlas.Files.Tree
import RouteAtlas.Text.Blank

namespace RouteAtlas

/-- Why an operation on a disk fails. `other` is an error that the operations of this module never
meet. -/
inductive DiskError where
  | notFound
  | alreadyExists
  | notDirectory
  | isDirectory
  | nameTooLong
  | tooManyLinks
  | nulInName
  | notText
  | other (text : String)
deriving DecidableEq, Repr, Inhabited

/-- The text of an error. -/
def DiskError.message : DiskError → String
  | .notFound => "No such file or directory (os error 2)"
  | .alreadyExists => "File exists (os error 17)"
  | .notDirectory => "Not a directory (os error 20)"
  | .isDirectory => "Is a directory (os error 21)"
  | .nameTooLong => "File name too long (os error 36)"
  | .tooManyLinks => "Too many levels of symbolic links (os error 40)"
  | .nulInName => "file name contained an unexpected NUL byte"
  | .notText => "stream did not contain valid UTF-8"
  | .other text => text

/-- A tree and the directory from which relative paths start. -/
structure Disk where
  tree : FileTree
  working : Location := []
deriving Inhabited

namespace Disk

/-- The greatest number of bytes in a name. -/
def maxNameSize : Nat := 255

/-- The number of bytes that no path reaches. -/
def pathSizeLimit : Nat := 4096

/-- The number of links that are followed for one path. -/
def maxLinks : Nat := 40

/-- What is done with a link at the end of a path, and whether the path leads to a file that is about
to be written. Such a file may be missing, but a slash after its name makes it a directory. -/
structure Ending where
  follow : Bool := true
  writing : Bool := false

/-- Take the pieces of a path one after the other. Whatever has a piece after it must be a
directory. Where a link has to be followed, `jump` goes on from the place it starts at. -/
def stepsWith (tree : FileTree) (ending : Ending)
    (jump : Location → List String → Except DiskError Location) (here : Location) :
    List String → Except DiskError Location
  | [] => .ok here
  | piece :: rest =>
      match tree.at? here with
      | some (.directory entries) =>
          if piece = "" || piece = "." then stepsWith tree ending jump here rest
          else if piece = ".." then stepsWith tree ending jump here.dropLast rest
          else if ending.writing && !rest.isEmpty && rest.all (· = "") then .error .isDirectory
          else if piece.utf8ByteSize > maxNameSize then .error .nameTooLong
          else
            match KeyMap.find? piece entries with
            | none =>
                if ending.writing && rest.isEmpty then .ok (here ++ [piece]) else .error .notFound
            | some (.link target) =>
                if ending.follow || !rest.isEmpty then
                  let start := if (⟨target⟩ : DiskPath).isAbsolute then [] else here
                  jump start (Text.split '/' target ++ rest)
                else stepsWith tree ending jump (here ++ [piece]) rest
            | some _ => stepsWith tree ending jump (here ++ [piece]) rest
      | _ => .error .notDirectory

/-- Where a program finds the directory that it works in, whatever the tree holds there. -/
def workingLink : Location := ["proc", "self", "cwd"]

/-- The pieces that are left of a path after some names, if it begins with these. -/
def piecesAfter? : Location → List String → Option (List String)
  | [], pieces => some pieces
  | _ :: _, [] => none
  | name :: names, piece :: pieces =>
      if piece = "" || piece = "." then piecesAfter? (name :: names) pieces
      else if piece = name then piecesAfter? names pieces
      else none

/-- Where a path is taken up, and the pieces to take from there. A path that leads from the root to the
working directory is taken up in that directory. -/
def entrance (disk : Disk) (here : Location) (pieces : List String) : Location × List String :=
  if here.isEmpty then
    match piecesAfter? workingLink pieces with
    | some rest => (disk.working, "" :: rest)
    | none => (here, pieces)
  else (here, pieces)

/-- Take the pieces of a path from its entrance on. -/
def walkWith (disk : Disk) (ending : Ending)
    (jump : Location → List String → Except DiskError Location) (here : Location)
    (pieces : List String) : Except DiskError Location :=
  let (start, rest) := disk.entrance here pieces
  stepsWith disk.tree ending jump start rest

/-- Take the pieces of a path, following at most `links` links. -/
def steps (disk : Disk) (ending : Ending) :
    (links : Nat) → Location → List String → Except DiskError Location
  | 0 => disk.walkWith ending fun _ _ => .error .tooManyLinks
  | links + 1 => disk.walkWith ending (steps disk ending links)

/-- The location that some pieces of a path lead to. -/
def locatePieces (disk : Disk) (ending : Ending) (absolute : Bool) (pieces : List String) :
    Except DiskError Location :=
  disk.steps ending maxLinks (if absolute then [] else disk.working) pieces

/-- Some texts are no paths, whatever is on the disk. -/
def checkText (path : DiskPath) : Except DiskError Unit :=
  if path.text.toList.contains '\x00' then .error .nulInName
  else if path.text = "" then .error .notFound
  else .ok ()

/-- Paths that are too long lead nowhere. -/
def checkSize (path : DiskPath) : Except DiskError Unit :=
  if path.text.utf8ByteSize ≥ pathSizeLimit then .error .nameTooLong else .ok ()

/-- The location that a path leads to. -/
def locateWith (disk : Disk) (ending : Ending) (path : DiskPath) : Except DiskError Location :=
  match (checkText path).bind fun _ => checkSize path with
  | .error error => .error error
  | .ok _ => disk.locatePieces ending path.isAbsolute (Text.split '/' path.text)

/-- The location that a path leads to, with all links followed. -/
def locate (disk : Disk) (path : DiskPath) : Except DiskError Location :=
  disk.locateWith {} path

/-- The node that a path leads to. -/
def node? (disk : Disk) (path : DiskPath) : Option FileTree :=
  match disk.locate path with
  | .ok location => disk.tree.at? location
  | .error _ => none

/-- The absolute path of a location. -/
def pathOf (location : Location) : DiskPath := ⟨"/" ++ Text.join "/" location⟩

/-- The one absolute path without links to what a path leads to. The path is taken piece by piece, so
that its length does not matter. -/
def canonical (disk : Disk) (path : DiskPath) : Except DiskError DiskPath :=
  match checkText path with
  | .error error => .error error
  | .ok _ => (disk.locatePieces {} path.isAbsolute (Text.split '/' path.text)).map pathOf

/-- Whether a path leads to something. -/
def isPresent (disk : Disk) (path : DiskPath) : Bool := (disk.node? path).isSome

/-- Whether a path leads to a file. -/
def isFile (disk : Disk) (path : DiskPath) : Bool :=
  match disk.node? path with
  | some (.file _) => true
  | _ => false

/-- Whether a path leads to a directory. -/
def isDirectory (disk : Disk) (path : DiskPath) : Bool :=
  match disk.node? path with
  | some (.directory _) => true
  | _ => false

/-- The bytes of the file that a path leads to. -/
def readBytes (disk : Disk) (path : DiskPath) : Except DiskError ByteArray :=
  match disk.locate path with
  | .error error => .error error
  | .ok location =>
      match disk.tree.at? location with
      | some (.file content) => .ok content
      | some _ => .error .isDirectory
      | none => .error .notFound

/-- The text of the file that a path leads to. -/
def readText (disk : Disk) (path : DiskPath) : Except DiskError String :=
  match disk.readBytes path with
  | .error error => .error error
  | .ok content =>
      match String.fromUTF8? content with
      | some text => .ok text
      | none => .error .notText

/-- The pieces of a path without the slashes at its end. -/
def trimmedPieces (path : DiskPath) : List String :=
  Text.split '/' (String.ofList (Text.trimEndWhere (· = '/') path.text.toList))

/-- The directory that a path is in, and the last piece of the path. -/
def locateParent (disk : Disk) (path : DiskPath) : Except DiskError (Location × String) := do
  checkText path
  checkSize path
  let pieces := trimmedPieces path
  let directory ← disk.locatePieces {} path.isAbsolute (pieces.dropLast ++ [""])
  return (directory, pieces.getLast?.getD "")

/-- Make a directory in one that exists. -/
def makeDirectory (disk : Disk) (path : DiskPath) : Except DiskError Disk :=
  match disk.locateParent path with
  | .error error => .error error
  | .ok (directory, name) =>
      if name = "" || name = "." || name = ".." then .error .alreadyExists
      else if name.utf8ByteSize > maxNameSize then .error .nameTooLong
      else
        let location := directory ++ [name]
        if (disk.tree.at? location).isSome then .error .alreadyExists
        else .ok { disk with tree := disk.tree.put (.directory []) location }

/-- Make a directory; one that is there already will do. -/
def ensureDirectory (disk : Disk) (path : DiskPath) : Except DiskError Disk :=
  match disk.makeDirectory path with
  | .ok made => .ok made
  | .error error => if disk.isDirectory path then .ok disk else .error error

/-- Make a directory and those it is in, `depth` being a bound on their number. -/
def makeDirectoriesWithin (disk : Disk) : (depth : Nat) → DiskPath → Except DiskError Disk
  | 0, path => disk.ensureDirectory path
  | depth + 1, path =>
      if path.text = "" then .ok disk
      else
        match disk.makeDirectory path with
        | .error .notFound =>
            match path.parent? with
            | none => .error (.other "failed to create whole tree")
            | some parent =>
                match makeDirectoriesWithin disk depth parent with
                | .error error => .error error
                | .ok made => made.ensureDirectory path
        | _ => disk.ensureDirectory path

/-- Make a directory and those it is in. Every one of them takes a character of the path. -/
def makeDirectories (disk : Disk) (path : DiskPath) : Except DiskError Disk :=
  disk.makeDirectoriesWithin (path.text.length + 1) path

/-- Where a file is to be written. -/
def locateForWriting (disk : Disk) (path : DiskPath) : Except DiskError Location :=
  disk.locateWith { writing := true } path

/-- Write a file, in place of one that is there. -/
def write (disk : Disk) (path : DiskPath) (content : ByteArray) : Except DiskError Disk :=
  match disk.locateForWriting path with
  | .error error => .error error
  | .ok location =>
      match disk.tree.at? location with
      | some (.directory _) => .error .isDirectory
      | _ => .ok { disk with tree := disk.tree.put (.file content) location }

end Disk

end RouteAtlas
