/-
Module: RouteAtlas.Text.Blank
Layer: Text
Purpose: White space in the sense of the Unicode property `White_Space`, and the removal of it at
  the two ends of a text.
Trusted boundary: the code point ranges, which are data of the Unicode standard
Main exports: isBlank, trim, lines
-/
import RouteAtlas.Text.Ranges

namespace RouteAtlas.Text

/-- Code points with the property `White_Space`. -/
def blankRanges : List (Nat × Nat) := [
  (0x9, 0xD), (0x20, 0x20), (0x85, 0x85), (0xA0, 0xA0), (0x1680, 0x1680), (0x2000, 0x200A),
  (0x2028, 0x2029), (0x202F, 0x202F), (0x205F, 0x205F), (0x3000, 0x3000)]

/-- A white-space character. -/
def isBlank (c : Char) : Bool := inRanges blankRanges c

/-- Drop the characters that satisfy `p` at both ends. -/
def trimWhere (p : Char → Bool) (chars : List Char) : List Char :=
  ((chars.dropWhile p).reverse.dropWhile p).reverse

/-- Drop the characters that satisfy `p` at the end. -/
def trimEndWhere (p : Char → Bool) (chars : List Char) : List Char :=
  (chars.reverse.dropWhile p).reverse

/-- Drop white space at both ends. -/
def trim (text : String) : String := String.ofList (trimWhere isBlank text.toList)

/-- One line loses the carriage return that stands before its line feed. -/
def dropReturn (line : List Char) : List Char :=
  match line.reverse with
  | '\r' :: rest => rest.reverse
  | _ => line

/-- The lines of a text, `done` being the reversed beginning of the current line. A last line
without a line feed counts unless it is empty, and keeps a carriage return at its end. -/
def linesFrom (done : List Char) : List Char → List (List Char)
  | [] => if done.isEmpty then [] else [done.reverse]
  | c :: rest =>
      if c = '\n' then dropReturn done.reverse :: linesFrom [] rest
      else linesFrom (c :: done) rest

/-- The lines of a text without their ends. -/
def lines (text : String) : List String := (linesFrom [] text.toList).map String.ofList

/-- White space is what Lean's own ASCII class calls white space, and more. -/
theorem isBlank_of_isWhitespace (c : Char) (h : c.isWhitespace = true) : isBlank c = true := by
  simp only [Char.isWhitespace, Bool.or_eq_true, decide_eq_true_eq] at h
  rcases h with ((h | h) | h) | h <;> subst h <;> decide

end RouteAtlas.Text
