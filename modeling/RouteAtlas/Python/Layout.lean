/-
Module: RouteAtlas.Python.Layout
Layer: Python
Purpose: Indentation. The depth of a line is a number of tabs followed by a number of spaces; two
  depths compare only when the order does not hang on the width of a tab. Blank lines, comment lines
  and form feeds leave no trace.
Trusted boundary: none
Main exports: Depth, Depth.compare?, measureDepth?, closeBlocks?, enterLine?
-/
import RouteAtlas.Python.Token

namespace RouteAtlas.Python

/-- The leading white space of a line. -/
structure Depth where
  tabs : Nat
  spaces : Nat
deriving DecidableEq, Repr, Inhabited

/-- The depth of a line that starts at the margin. -/
def Depth.margin : Depth := ⟨0, 0⟩

/-- The order of two depths if it is the same for every width of a tab. -/
def Depth.compare? (left right : Depth) : Option Ordering :=
  match compare left.tabs right.tabs with
  | .lt => if left.spaces ≤ right.spaces then some .lt else none
  | .gt => if right.spaces ≤ left.spaces then some .gt else none
  | .eq => some (compare left.spaces right.spaces)

/-- Read white space, comments and empty lines up to the first character of the next statement.
A tab may not follow a space. At the end of the text the depth is the margin. -/
def measureDepth? (comment : Bool) (depth : Depth) : List Char → Option (Depth × List Char)
  | [] => some (.margin, [])
  | c :: rest =>
      if c = '\n' then measureDepth? false .margin rest
      else if comment then measureDepth? true depth rest
      else if c = ' ' then measureDepth? false { depth with spaces := depth.spaces + 1 } rest
      else if c = '\t' then
        if depth.spaces = 0 then measureDepth? false { depth with tabs := depth.tabs + 1 } rest
        else none
      else if c = '\x0c' then measureDepth? false .margin rest
      else if c = '#' then measureDepth? true .margin rest
      else some (depth, c :: rest)

/-- The depth of the innermost open block. -/
def innermost : List Depth → Depth
  | [] => .margin
  | depth :: _ => depth

/-- Close blocks until one of depth `depth` is met: the number of blocks closed and those that stay
open. There is none if the depth lies between two blocks. -/
def closeBlocks? (depth : Depth) : List Depth → Option (Nat × List Depth)
  | [] => if depth.compare? .margin = some .eq then some (0, []) else none
  | top :: below =>
      match depth.compare? top with
      | some .eq => some (0, top :: below)
      | some .lt => (closeBlocks? depth below).map fun closed => (closed.1 + 1, closed.2)
      | _ => none

/-- The tokens that a line of depth `depth` begins with, and the blocks open after them. -/
def enterLine? (depth : Depth) (blocks : List Depth) : Option (List Token × List Depth) :=
  match depth.compare? (innermost blocks) with
  | some .eq => some ([], blocks)
  | some .gt => some ([.indent], depth :: blocks)
  | some .lt =>
      (closeBlocks? depth blocks).map fun closed => (List.replicate closed.1 .dedent, closed.2)
  | none => none

end RouteAtlas.Python
