/-
Module: RouteAtlas.Text.Case
Layer: Text
Purpose: Lower-casing of a text by the default mapping of the Unicode standard, with its one rule
  that looks at the surroundings: a capital sigma at the end of a word becomes the final sigma.
Trusted boundary: the tables of `RouteAtlas.Text.CaseTable`
Main exports: lowerChar, lowercase, asciiLowercase, lowerChar_ascii
-/
import RouteAtlas.Text.CaseTable

namespace RouteAtlas.Text

/-- The shift of the run that holds the code point, if there is one. -/
def lowerShift? (code : Nat) : List LowerRun → Option Int
  | [] => none
  | (first, last, step, shift) :: rest =>
      if first ≤ code && code ≤ last && (code - first) % step == 0 then some shift
      else lowerShift? code rest

/-- Lower case of one character without regard to its surroundings. Only the capital I with a dot
above has two characters for its lower-case form. -/
def lowerChar (c : Char) : List Char :=
  if c.toNat < 128 then [c.toLower]
  else if c = '\u0130' then ['i', '\u0307']
  else
    match lowerShift? c.toNat lowerRuns with
    | none => [c]
    | some shift => [Char.ofNat (Int.toNat (c.toNat + shift))]

/-- A letter with a case. -/
def isCased (c : Char) : Bool :=
  if c.toNat < 128 then c.isAlpha else inRanges casedRanges c

/-- A character that does not interrupt a word, such as an apostrophe. -/
def isCaseIgnorable (c : Char) : Bool := inRanges caseIgnorableRanges c

/-- Whether the first character that may interrupt a word is a cased letter. -/
def meetsCased (chars : List Char) : Bool :=
  match chars.dropWhile isCaseIgnorable with
  | [] => false
  | c :: _ => isCased c

/-- Lower case of the characters that follow `before`, which is held in reverse. -/
def lowerFrom (before : List Char) : List Char → List Char
  | [] => []
  | c :: rest =>
      (if c = 'Σ' then
        if meetsCased before && !meetsCased rest then ['ς'] else ['σ']
      else lowerChar c) ++ lowerFrom (c :: before) rest

/-- The lower-case form of a text. -/
def lowercase (text : String) : String := String.ofList (lowerFrom [] text.toList)

/-- Lower case of the letters `A` to `Z` alone. -/
def asciiLowercase (text : String) : String := String.ofList (text.toList.map Char.toLower)

/-- On ASCII the two mappings agree. -/
theorem lowerChar_ascii (c : Char) (h : c.toNat < 128) : lowerChar c = [c.toLower] := by
  simp [lowerChar, h]

end RouteAtlas.Text
