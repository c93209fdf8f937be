/-
Module: RouteAtlas.Files.Tree
Layer: Files
Purpose: Trees of files, directories and symbolic links. A directory is a sorted list of named
  entries, and a location in a tree is the list of names that leads to it from the root.
Trusted boundary: none
Main exports: FileTree, Location, FileTree.at?, FileTree.put, FileTree.files
-/
import RouteAtlas.Data.KeyMap

namespace RouteAtlas

/-- A file with its bytes, a symbolic link with its text, or a directory. -/
inductive FileTree where
  | file (content : ByteArray)
  | link (target : String)
  | directory (entries : List (String × FileTree))
deriving Inhabited

/-- The names that lead from the root to a place in a tree. -/
abbrev Location := List String

namespace FileTree

/-- The entries of a directory; other nodes have none. -/
def entries : FileTree → KeyMap FileTree
  | .directory entries => entries
  | _ => []

/-- The node at a location. Links are not followed. -/
def at? (tree : FileTree) : Location → Option FileTree
  | [] => some tree
  | name :: rest => (KeyMap.find? name tree.entries).bind fun child => child.at? rest

/-- Put a node at a location. Directories on the way are made where there are none. -/
def put (tree : FileTree) (node : FileTree) : Location → FileTree
  | [] => node
  | name :: rest =>
      let child := (KeyMap.find? name tree.entries).getD (.directory [])
      .directory (KeyMap.insert name (child.put node rest) tree.entries)

mutual

/-- All files of a tree with their locations, `here` being the reversed location of the tree. -/
def filesFrom (here : Location) : FileTree → List (Location × ByteArray)
  | .file content => [(here.reverse, content)]
  | .link _ => []
  | .directory entries => filesOfEntries here entries

/-- All files below the entries of a directory. -/
def filesOfEntries (here : Location) : List (String × FileTree) → List (Location × ByteArray)
  | [] => []
  | (name, node) :: rest => filesFrom (name :: here) node ++ filesOfEntries here rest

end

/-- All files of a tree with their locations. -/
def files (tree : FileTree) : List (Location × ByteArray) := filesFrom [] tree

end FileTree

end RouteAtlas
