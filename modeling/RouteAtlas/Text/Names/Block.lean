/-
Module: RouteAtlas.Text.Names.Block
Layer: Text
Purpose: Character names as lists of words, and as they are listed. A list of names is short because
  each name says how many words it shares with the name before it.
Trusted boundary: none
Main exports: nameWords, NameBlock, NameBlock.position?
-/
import RouteAtlas.Text.Split

namespace RouteAtlas.Text

/-- The words of a name. Between two words there is one blank, and ASCII letters are capitals. -/
def nameWords (name : List Char) : List (List Char) := splitAt ' ' (name.map Char.toUpper)

/-- Consecutive characters with their names: the first code point, and rows of names with semicolons
between them. A digit before a name says with how many words of the name before it begins; a code
point without a name has an empty entry. -/
structure NameBlock where
  first : Nat
  rows : List String
deriving Repr, Inhabited

/-- The words of a name, given those of the name before it. -/
def nextWords (before : List (List Char)) (entry : List Char) : List (List Char) :=
  match entry with
  | [] => before
  | c :: rest =>
      if c.isDigit then
        before.take (c.toNat - '0'.toNat) ++ (if rest.isEmpty then [] else splitAt ' ' rest)
      else splitAt ' ' entry

/-- The position of a name among some entries, `before` being the words of the name before them. -/
def positionFrom? (name before : List (List Char)) : List (List Char) → Option Nat
  | [] => none
  | entry :: rest =>
      let words := nextWords before entry
      if !entry.isEmpty && words == name then some 0
      else (positionFrom? name words rest).map (· + 1)

/-- The place of a name in a block. -/
def NameBlock.position? (block : NameBlock) (name : List (List Char)) : Option Nat :=
  positionFrom? name [] (block.rows.flatMap fun row => splitAt ';' row.toList)

end RouteAtlas.Text
