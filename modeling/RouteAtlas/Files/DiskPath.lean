/-
Module: RouteAtlas.Files.DiskPath
Layer: Files
Purpose: Paths as texts. A path keeps the spelling it was built with; two spellings are the same path
  when their components agree, whatever slashes and dots stand between them.
Trusted boundary: none
Main exports: DiskPath, Component, DiskPath.components, DiskPath.same, DiskPath.join,
  DiskPath.parent?, DiskPath.fileName?, DiskPath.withExtension, extension?
-/
import RouteAtlas.Text.Split

namespace RouteAtlas

/-- A path, absolute or relative. -/
structure DiskPath where
  text : String
deriving DecidableEq, Repr, Inhabited

/-- A step of a path. -/
inductive Component where
  | root
  | current
  | parent
  | name (text : String)
deriving DecidableEq, Repr, Inhabited

/-- The extension of a file name: what stands after its last dot, unless that dot begins the
name. -/
def extension? (name : String) : Option String :=
  let chars := name.toList.reverse
  let extension := chars.takeWhile (· ≠ '.')
  match chars.drop extension.length with
  | [] => none
  | [_] => none
  | _ :: _ => if name = ".." then none else some (String.ofList extension.reverse)

namespace DiskPath

/-- Whether a path starts at the root. -/
def isAbsolute (path : DiskPath) : Bool := path.text.toList.head? == some '/'

/-- What the pieces between slashes mean. Empty pieces and dots mean nothing. -/
def componentsOfPieces (pieces : List String) : List Component :=
  pieces.filterMap fun piece =>
    if piece = "" || piece = "." then none
    else if piece = ".." then some .parent
    else some (.name piece)

/-- The components of a path. A dot counts at the beginning of a relative path alone. -/
def components (path : DiskPath) : List Component :=
  let pieces := Text.split '/' path.text
  let start : List Component :=
    if path.isAbsolute then [.root] else if pieces.head? = some "." then [.current] else []
  start ++ componentsOfPieces pieces

/-- Whether two paths have the same components. -/
def same (path other : DiskPath) : Bool := path.components == other.components

/-- A path below a directory. An absolute path stands for itself. -/
def join (directory : DiskPath) (path : String) : DiskPath :=
  let below : DiskPath := ⟨path⟩
  if below.isAbsolute then below
  else
    match directory.text.toList.reverse.head? with
    | none => below
    | some last => ⟨directory.text ++ (if last = '/' then "" else "/") ++ path⟩

/-- The beginning of a path that is no part of its body: the slash of an absolute path, or the dot
that begins a relative one. -/
def splitLead (path : DiskPath) : List Char × List Char :=
  match path.text.toList with
  | '/' :: rest => (['/'], rest)
  | ['.'] => (['.'], [])
  | '.' :: '/' :: rest => (['.'], '/' :: rest)
  | chars => ([], chars)

/-- Drop slashes and single dots at the end of a reversed text. -/
def dropIdleEnd : List Char → List Char
  | '/' :: rest => dropIdleEnd rest
  | ['.'] => []
  | '.' :: '/' :: rest => dropIdleEnd rest
  | chars => chars

/-- The directory that a path is in, which the text of the path states. The root has none, and the
directory of a bare name is the empty path. -/
def parent? (path : DiskPath) : Option DiskPath :=
  let (lead, body) := path.splitLead
  match dropIdleEnd body.reverse with
  | [] => if lead = ['.'] then some ⟨""⟩ else none
  | chars =>
      let rest := (chars.dropWhile (· ≠ '/')).drop 1
      some ⟨String.ofList (lead ++ (dropIdleEnd rest).reverse)⟩

/-- The last component, if it is a name. -/
def fileName? (path : DiskPath) : Option String :=
  match path.components.getLast? with
  | some (.name text) => some text
  | _ => none

/-- The path with another extension of its file name. -/
def withExtension (path : DiskPath) (extension : String) : DiskPath :=
  match path.fileName? with
  | none => path
  | some name =>
      let (lead, body) := path.splitLead
      let chars := dropIdleEnd body.reverse
      let dropped := (extension? name).elim 0 fun old => old.length + 1
      ⟨String.ofList (lead ++ (chars.drop dropped).reverse) ++ "." ++ extension⟩

end DiskPath

end RouteAtlas
