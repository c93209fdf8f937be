/-
Module: RouteAtlas.Project.Modules
Layer: Project
Purpose: From the dotted name of a module to its file. Relative names are looked up from the file
  that uses them; all others, and relative ones that are not found there, in the root of the
  project, then where applications usually keep their URLs, then along a search path.
Trusted boundary: none
Main exports: SearchPath, SearchPath.ofProject, SearchPath.directories, moduleFile?,
  SearchPath.locate?, SearchPath.resolve
-/
import RouteAtlas.Files.Source

namespace RouteAtlas.Project

/-- The directories in which modules are looked up, the root of the project first. -/
structure SearchPath where
  root : DiskPath
  directories : List DiskPath
deriving Repr, Inhabited

/-- Add a directory to the end of a list unless the same path is there. -/
def addDirectory (directories : List DiskPath) (directory : DiskPath) : List DiskPath :=
  if directories.any directory.same then directories else directories ++ [directory]

/-- The search path of a project: its root, the directory above, the directory of applications, that
of the entry file, and the extra ones. -/
def SearchPath.ofProject (root entry : DiskPath) (extra : List DiskPath) : SearchPath :=
  let usual :=
    [root] ++ root.parent?.toList ++ [root.join "apps"] ++ entry.parent?.toList
  ⟨root, (usual ++ extra).foldl addDirectory []⟩

/-- The first of some paths that leads to a file. -/
def firstFile? (disk : Disk) (candidates : List DiskPath) : Option DiskPath :=
  candidates.find? disk.isFile

/-- The file of a module below a directory: a file of its name, or the file that makes a directory
of its name a package. Empty pieces of the name mean nothing. -/
def moduleFile? (disk : Disk) (base : DiskPath) (module : String) : Option DiskPath :=
  match (Text.split '.' module).filter (· ≠ "") with
  | [] => firstFile? disk [base.join "__init__.py"]
  | pieces =>
      let path := pieces.foldl DiskPath.join base
      firstFile? disk [path.withExtension "py", path.join "__init__.py"]

/-- The directory that `level` dots name, as seen from a file: so many directories up. -/
def climb? : (level : Nat) → DiskPath → Option DiskPath
  | 0, path => some path
  | level + 1, path =>
      match path.parent? with
      | none => none
      | some parent => climb? level parent

/-- Where an application may keep its URLs: the name of the module is a directory of the project, the
first and last piece of it are, or it is one among the applications or on the search path. -/
def applicationUrls (path : SearchPath) (module : String) : List DiskPath :=
  let asPath := ((Text.split '.' module).foldl DiskPath.join ⟨""⟩).text
  let first := Text.firstPiece '.' module
  let last := Text.lastPiece '.' module
  [(path.root.join asPath).join "urls.py",
    ((path.root.join first).join last).join "urls.py",
    ((path.root.join "apps").join asPath).join "urls.py"] ++
  path.directories.map fun directory => (directory.join asPath).join "urls.py"

/-- The file of an absolute module name. -/
def SearchPath.locateAbsolute? (path : SearchPath) (disk : Disk) (module : String) :
    Option DiskPath :=
  if module = "" then none
  else
    (moduleFile? disk path.root module).or <|
      (firstFile? disk (applicationUrls path module)).or <|
        path.directories.findSome? fun directory => moduleFile? disk directory module

/-- The file of a module that `file` refers to with `level` dots. A file that has not that many
directories above it refers to nothing. -/
def SearchPath.locate? (path : SearchPath) (disk : Disk) (module : String) (level : Nat)
    (file : DiskPath) : Option DiskPath :=
  if level = 0 then path.locateAbsolute? disk module
  else
    match climb? level file with
    | none => none
    | some base => (moduleFile? disk base module).or (path.locateAbsolute? disk module)

/-- The file of a module, or the error that there is none. -/
def SearchPath.resolve (path : SearchPath) (disk : Disk) (module : String) (level : Nat)
    (file : DiskPath) : Except SourceError DiskPath :=
  match path.locate? disk module level file with
  | some target => .ok target
  | none => .error (.unresolved (String.ofList (List.replicate level '.') ++ module) file)

end RouteAtlas.Project
