/-
Module: RouteAtlas.Yaml.Scalar
Layer: Yaml
Purpose: Texts in a YAML text. A text is written plain if that can be read back, in single quotes if
  it has to be quoted, in double quotes if it needs escapes, and as a literal block if it has line
  feeds.
Trusted boundary: none
Main exports: Style, styleOf, isSimpleKey, scalar
-/
import RouteAtlas.Json.Text
import RouteAtlas.Yaml.Resolution

namespace RouteAtlas.Yaml

/-- A character that ends a line. -/
def isBreak (c : Char) : Bool :=
  c = '\n' || c = '\r' || c = '\u0085' || c = '\u2028' || c = '\u2029'

/-- A character that can stand in a text as it is. -/
def isPrintable (c : Char) : Bool :=
  let code := c.toNat
  c = '\n' || (0x20 ≤ code && code ≤ 0x7E) ||
    (0xA0 ≤ code && code ≠ 0xFEFF && code ≠ 0xFFFE && code ≠ 0xFFFF)

/-- Whether a text begins with white space, or with nothing at all. -/
def beginsBlank : List Char → Bool
  | [] => true
  | c :: _ => c = ' ' || c = '\t' || c = '\x00' || isBreak c

/-- Whether some character that satisfies `p` is followed by one that satisfies `q`. -/
def hasPair (p q : Char → Bool) : List Char → Bool
  | c :: d :: rest => (p c && q d) || hasPair p q (d :: rest)
  | _ => false

/-- A space. -/
def isSpace (c : Char) : Bool := c = ' '

/-- Whether the beginning of a text has a meaning of its own in YAML. -/
def beginsWithIndicator (chars : List Char) : Bool :=
  match chars with
  | [] => false
  | c :: rest =>
      ['#', ',', '[', ']', '{', '}', '&', '*', '!', '|', '>', '\'', '"', '%', '@', '\x60'].contains
        c ||
      (['?', ':', '-'].contains c && beginsBlank rest) ||
      [['-', '-', '-'], ['.', '.', '.']].any fun mark => (Text.dropPrefix? mark chars).isSome

/-- Whether a colon before white space, or a hash after it, stands in a text. -/
def holdsIndicator : List Char → Bool
  | c :: d :: rest =>
      (d = ':' && beginsBlank rest) || (d = '#' && beginsBlank [c]) || holdsIndicator (d :: rest)
  | _ => false

/-- Whether a text needs escapes: it has characters that cannot stand as they are, or a space before
the end of a line. -/
def needsEscapes (chars : List Char) : Bool :=
  chars.any (fun c => !isPrintable c) || hasPair isSpace isBreak chars

/-- Whether a text can be written in single quotes. -/
def allowsSingle (chars : List Char) : Bool :=
  !needsEscapes chars && !hasPair isBreak isSpace chars

/-- Whether a text can be written as a literal block. -/
def allowsLiteral (chars : List Char) : Bool :=
  !needsEscapes chars && !chars.getLast?.any isSpace

/-- Whether a text can be written plain. -/
def allowsPlain (chars : List Char) : Bool :=
  allowsSingle chars && !chars.isEmpty && !chars.any isBreak && !chars.head?.any isSpace &&
    !chars.getLast?.any isSpace && !beginsWithIndicator chars && !holdsIndicator chars

/-- The ways to write a text. -/
inductive Style where
  | plain
  | single
  | double
  | literal
deriving DecidableEq, Repr, Inhabited

/-- The way in which a text is written. -/
def styleOf (text : String) : Style :=
  let chars := text.toList
  if chars.contains '\n' then if allowsLiteral chars then .literal else .double
  else if !isAmbiguous text && allowsPlain chars then .plain
  else if allowsSingle chars then .single
  else .double

/-- The greatest number of bytes of a key that stands before its colon on one line. -/
def maxSimpleKey : Nat := 128

/-- Whether a key stands before its colon on one line. -/
def isSimpleKey (text : String) : Bool :=
  text.utf8ByteSize ≤ maxSimpleKey && !text.toList.any isBreak

/-- The indentation of a line. -/
def pad (indent : Nat) : List Char := List.replicate indent ' '

/-- The inside of single quotes. A quote is written twice, and what follows the end of a line is
indented. -/
def singleBody (indent : Nat) (afterBreak : Bool) : List Char → List Char
  | [] => if afterBreak then pad indent else []
  | c :: rest =>
      if isBreak c then c :: singleBody indent true rest
      else
        (if afterBreak then pad indent else []) ++ (if c = '\'' then [c, c] else [c]) ++
          singleBody indent false rest

/-- The last `width` digits of a number to base 16, in capitals. -/
def capitalHex (width value : Nat) : List Char :=
  (Json.hexDigits width value).map Char.toUpper

/-- The letters that stand for characters after a backslash. -/
def shortEscapes : List (Char × Char) := [
  ('\x00', '0'), ('\x07', 'a'), ('\x08', 'b'), ('\t', 't'), ('\n', 'n'), ('\x0b', 'v'),
  ('\x0c', 'f'), ('\r', 'r'), ('\x1b', 'e'), ('"', '"'), ('\\', '\\'), ('\u0085', 'N'),
  ('\u00a0', '_'), ('\u2028', 'L'), ('\u2029', 'P')]

/-- A character inside double quotes. -/
def escape (c : Char) : List Char :=
  if isPrintable c && !isBreak c && c ≠ '"' && c ≠ '\\' then [c]
  else
    match shortEscapes.lookup c with
    | some letter => ['\\', letter]
    | none =>
        let code := c.toNat
        if code ≤ 0xFF then ['\\', 'x'] ++ capitalHex 2 code
        else if code ≤ 0xFFFF then ['\\', 'u'] ++ capitalHex 4 code
        else ['\\', 'U'] ++ capitalHex 8 code

/-- The marks after the bar of a literal block: how far it is indented, if the text itself begins with
white space, and what becomes of the line ends after it. -/
def literalMarks (chars : List Char) : List Char :=
  let indentMark := if chars.head?.any fun c => c = ' ' || isBreak c then ['2'] else []
  let endMark :=
    match chars.reverse with
    | [] => ['-']
    | [c] => if isBreak c then ['+'] else ['-']
    | c :: d :: _ => if !isBreak c then ['-'] else if isBreak d then ['+'] else []
  indentMark ++ endMark

/-- The lines of a literal block. -/
def literalBody (indent : Nat) (afterBreak : Bool) : List Char → List Char
  | [] => []
  | c :: rest =>
      if isBreak c then c :: literalBody indent true rest
      else (if afterBreak then pad indent else []) ++ c :: literalBody indent false rest

/-- A text at a place where lines are indented by `indent`. -/
def scalar (indent : Nat) (text : String) : List Char :=
  let chars := text.toList
  match styleOf text with
  | .plain => chars
  | .single => ['\''] ++ singleBody indent false chars ++ ['\'']
  | .double => ['"'] ++ chars.flatMap escape ++ ['"']
  | .literal => ['|'] ++ literalMarks chars ++ ['\n'] ++ literalBody indent true chars

end RouteAtlas.Yaml
