/-
Module: RouteAtlas.Project.Listing
Layer: Project
Purpose: The Python files below a directory. Directories that hold environments, caches or generated
  code are passed over, and so are hidden ones; links are not followed.
Trusted boundary: none
Main exports: skippedDirectories, isSkipped, listing, NotDirectory, pythonFiles, named
-/
import RouteAtlas.Files.Disk
import RouteAtlas.Text.Affix

namespace RouteAtlas.Project

/-- The names of directories that are passed over. -/
def skippedDirectories : List String :=
  ["__pycache__", "node_modules", "venv", "env", "site-packages", "migrations"]

/-- Whether a directory of the given name is passed over. -/
def isSkipped (name : String) : Bool :=
  Text.hasPrefix "." name || skippedDirectories.contains name

mutual

/-- The Python files below a directory, `here` being the path to it. The entries of a directory are
in order of their names, and so are the paths that are listed. -/
def listing (here : DiskPath) : FileTree → List DiskPath
  | .directory entries => listingOfEntries here entries
  | _ => []

/-- The Python files among some entries of a directory and below them. -/
def listingOfEntries (here : DiskPath) : List (String × FileTree) → List DiskPath
  | [] => []
  | (name, .file _) :: rest =>
      (if extension? name = some "py" then [here.join name] else []) ++
        listingOfEntries here rest
  | (_, .link _) :: rest => listingOfEntries here rest
  | (name, .directory entries) :: rest =>
      (if isSkipped name then [] else listingOfEntries (here.join name) entries) ++
        listingOfEntries here rest

end

/-- The root of a project is no directory. -/
structure NotDirectory where
  root : DiskPath
deriving DecidableEq, Repr, Inhabited

/-- What a user is told. -/
def NotDirectory.message (error : NotDirectory) : String :=
  error.root.text ++ " is not a directory"

/-- The Python files below a root. The root itself counts whatever its name is. -/
def pythonFiles (disk : Disk) (root : DiskPath) : Except NotDirectory (List DiskPath) :=
  match disk.node? root with
  | some (.directory entries) => .ok (listingOfEntries root entries)
  | _ => .error ⟨root⟩

/-- The paths with a file name. -/
def named (fileName : String) (files : List DiskPath) : List DiskPath :=
  files.filter fun file => file.fileName? == some fileName

end RouteAtlas.Project
