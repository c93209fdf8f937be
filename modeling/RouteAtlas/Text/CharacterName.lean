/-
Module: RouteAtlas.Text.CharacterName
Layer: Text
Purpose: Characters by their names in the Unicode standard. Most names are listed; those of Hangul
  syllables are put together from the names of their parts, and those of ideographs from the code
  point. Small letters of ASCII stand for capitals, and all else is spelled as in the standard.
Trusted boundary: the names of the modules below `RouteAtlas.Text.Names`
Main exports: charNamed?
-/
import RouteAtlas.Text.Affix
import RouteAtlas.Text.Names.Alias
import RouteAtlas.Text.Names.Eastern
import RouteAtlas.Text.Names.Historic
import RouteAtlas.Text.Names.Notation
import RouteAtlas.Text.Names.Pictograph
import RouteAtlas.Text.Names.Southern
import RouteAtlas.Text.Names.Symbol
import RouteAtlas.Text.Names.Western
import RouteAtlas.Text.Ranges

namespace RouteAtlas.Text

/-! ### Hangul syllables -/

/-- The names of the consonants that begin a syllable. -/
def leadingJamo : List String :=
  ["G", "GG", "N", "D", "DD", "R", "M", "B", "BB", "S", "SS", "", "J", "JJ", "C", "K", "T", "P", "H"]

/-- The names of the vowels. -/
def vowelJamo : List String :=
  ["A", "AE", "YA", "YAE", "EO", "E", "YEO", "YE", "O", "WA", "WAE", "OE", "YO", "U", "WEO", "WE",
    "WI", "YU", "EU", "YI", "I"]

/-- The names of the consonants that end a syllable. -/
def trailingJamo : List String :=
  ["", "G", "GG", "GS", "N", "NJ", "NH", "D", "L", "LG", "LM", "LB", "LS", "LT", "LP", "LH", "M", "B",
    "BS", "S", "SS", "NG", "J", "C", "K", "T", "P", "H"]

/-- The position of the longest part with which some characters begin, and the characters after
it. -/
def longestPart? (parts : List String) (chars : List Char) : Option (Nat × List Char) :=
  (parts.zipIdx.filterMap fun (part, index) =>
    (dropPrefix? part.toList chars).map fun rest => (index, rest)).foldl
      (fun best next =>
        match best with
        | some (_, rest) => if next.2.length < rest.length then some next else best
        | none => some next)
      none

/-- The syllable of the name that is put together from the names of its parts. -/
def hangulSyllable? (name : List Char) : Option Char := do
  let (leading, rest) ← longestPart? leadingJamo name
  let (vowel, rest) ← longestPart? vowelJamo rest
  let (trailing, rest) ← longestPart? trailingJamo rest
  if rest.isEmpty then
    some (Char.ofNat (0xAC00 + (leading * vowelJamo.length + vowel) * trailingJamo.length + trailing))
  else none

/-! ### Names with a number -/

/-- The value of capital hexadecimal digits. -/
def hexNumber? (digits : List Char) : Option Nat :=
  digits.foldl
    (fun value c =>
      value.bind fun value =>
        if c.isDigit then some (16 * value + (c.toNat - '0'.toNat))
        else if 'A' ≤ c && c ≤ 'F' then some (16 * value + (c.toNat - 'A'.toNat + 10))
        else none)
    (some 0)

/-- The unified ideographs. -/
def unifiedIdeographRanges : List (Nat × Nat) := [
  (0x3400, 0x4DBF), (0x4E00, 0x9FFF), (0x20000, 0x2A6DF), (0x2A700, 0x2B739), (0x2B740, 0x2B81D),
  (0x2B820, 0x2CEA1), (0x2CEB0, 0x2EBE0), (0x2EBF0, 0x2EE5D), (0x30000, 0x3134A), (0x31350, 0x323AF)]

/-- The unified ideograph of a number with at most five digits. -/
def unifiedIdeograph? (digits : List Char) : Option Char :=
  if digits.length > 5 then none
  else
    (hexNumber? digits).bind fun code =>
      let char := Char.ofNat code
      if inRanges unifiedIdeographRanges char then some char else none

/-- Other characters whose names end with their code points: the beginning of the names, and where
these characters are. -/
def numberedNames : List (String × List (Nat × Nat)) := [
  ("CJK COMPATIBILITY IDEOGRAPH-", [(0xF900, 0xFA6D), (0xFA70, 0xFAD9), (0x2F800, 0x2FA1D)]),
  ("EGYPTIAN HIEROGLYPH-", [(0x13460, 0x143FA)]),
  ("KHITAN SMALL SCRIPT CHARACTER-", [(0x18B00, 0x18CD5), (0x18CFF, 0x18CFF)]),
  ("NUSHU CHARACTER-", [(0x1B170, 0x1B2FB)])]

/-- The character whose name ends with its code point. -/
def numbered? (name : List Char) : Option Char :=
  numberedNames.findSome? fun (start, ranges) =>
    (dropPrefix? start.toList name).bind fun digits =>
      if digits.head? = some '0' then none
      else
        (hexNumber? digits).bind fun code =>
          let char := Char.ofNat code
          if inRanges ranges char then some char else none

/-! ### Listed names -/

/-- All names that are listed. The further names of a character come last. -/
def nameBlocks : List (List NameBlock) :=
  [westernNames, southernNames, symbolNames, easternNames, historicNames, notationNames,
    pictographNames, aliasNames]

/-- The character of a name that is listed. -/
def listed? (name : List Char) : Option Char :=
  nameBlocks.findSome? fun blocks =>
    blocks.findSome? fun block =>
      (block.position? (nameWords name)).map fun position => Char.ofNat (block.first + position)

/-- The character of a name, in capital or small letters. -/
def charNamed? (name : List Char) : Option Char :=
  let capitals := name.map Char.toUpper
  match dropPrefix? "HANGUL SYLLABLE ".toList capitals with
  | some parts => hangulSyllable? parts
  | none =>
      match dropPrefix? "CJK UNIFIED IDEOGRAPH-".toList capitals with
      | some digits => unifiedIdeograph? digits
      | none => (numbered? capitals).or (listed? capitals)

end RouteAtlas.Text
