/-
Module: RouteAtlas.Python.Escape
Layer: Python
Purpose: What a string literal stands for. In a literal that is not raw a backslash begins an escape;
  an escape without a meaning keeps its backslash, a malformed one makes the literal illegal. Bytes
  hold ASCII characters only and know no escapes of code points.
Trusted boundary: none
Main exports: unescape?, literalText?, isLegalBytes
-/
import RouteAtlas.Python.Number
import RouteAtlas.Text.CharacterName

namespace RouteAtlas.Python

/-- The character that a one-letter escape stands for. -/
def simpleEscape? : Char → Option Char
  | '\\' => some '\\'
  | '\'' => some '\''
  | '"' => some '"'
  | 'a' => some '\x07'
  | 'b' => some '\x08'
  | 'f' => some '\x0c'
  | 'n' => some '\n'
  | 'r' => some '\r'
  | 't' => some '\t'
  | 'v' => some '\x0b'
  | _ => none

/-- How many hexadecimal digits follow the letter of a numeric escape. -/
def hexEscapeWidth? (bytes : Bool) : Char → Option Nat
  | 'x' => some 2
  | 'u' => if bytes then none else some 4
  | 'U' => if bytes then none else some 8
  | _ => none

/-- The value of exactly `width` hexadecimal digits. -/
def readHex? (width value : Nat) : List Char → Option (Nat × List Char)
  | [] => if width = 0 then some (value, []) else none
  | c :: rest =>
      match width with
      | 0 => some (value, c :: rest)
      | width + 1 =>
          match digitValue? 16 c with
          | none => none
          | some digit => readHex? width (value * 16 + digit) rest

/-- The character of a code point. Surrogates have none and give the replacement character; numbers
beyond the last code point are illegal. -/
def charOfCode? (code : Nat) : Option Char :=
  if 0xD800 ≤ code ∧ code ≤ 0xDFFF then some '\uFFFD'
  else if code ≤ 0x10FFFF then some (Char.ofNat code)
  else none

/-- The octal digits of an escape, three at most. -/
def octalRun (chars : List Char) : List Nat :=
  ((chars.take 3).map (digitValue? 8)).takeWhile Option.isSome |>.reduceOption

/-- The character whose name stands in braces, and what follows them. -/
def readNamed? (chars : List Char) : Option (Char × List Char) :=
  match chars with
  | '{' :: rest =>
      let name := rest.takeWhile (· ≠ '}')
      match rest.drop name.length with
      | [] => none
      | _ :: rest => (Text.charNamed? name).map fun char => (char, rest)
  | _ => none

/-- Resolve the escapes of a literal. `fuel` is more than the number of characters left. -/
def unescapeFrom? (bytes : Bool) (fuel : Nat) (chars : List Char) : Option (List Char) :=
  match fuel with
  | 0 => none
  | fuel + 1 =>
      match chars with
      | [] => some []
      | '\\' :: [] => none
      | '\\' :: c :: rest =>
          if c = '\n' then unescapeFrom? bytes fuel rest
          else
            match simpleEscape? c, hexEscapeWidth? bytes c with
            | some char, _ => (unescapeFrom? bytes fuel rest).map (char :: ·)
            | none, some width =>
                match readHex? width 0 rest with
                | none => none
                | some (code, rest) =>
                    match charOfCode? code with
                    | none => none
                    | some char => (unescapeFrom? bytes fuel rest).map (char :: ·)
            | none, none =>
                match octalRun (c :: rest) with
                | [] =>
                    if c = 'N' && !bytes then
                      match readNamed? rest with
                      | none => none
                      | some (char, rest) => (unescapeFrom? bytes fuel rest).map (char :: ·)
                    else (unescapeFrom? bytes fuel rest).map fun tail => '\\' :: c :: tail
                | digits =>
                    (unescapeFrom? bytes fuel ((c :: rest).drop digits.length)).map
                      (Char.ofNat (ofDigits 8 digits) :: ·)
      | c :: rest => (unescapeFrom? bytes fuel rest).map (c :: ·)

/-- The characters that a literal stands for. -/
def unescape? (bytes : Bool) (raw : List Char) : Option (List Char) :=
  unescapeFrom? bytes (raw.length + 1) raw

/-- The text of a literal that is neither bytes nor formatted. -/
def literalText? (marks : TextPrefix) (raw : List Char) : Option (List Char) :=
  if marks.raw then some raw else unescape? false raw

/-- Whether a bytes literal is legal. -/
def isLegalBytes (marks : TextPrefix) (raw : List Char) : Bool :=
  raw.all (fun c => c.toNat < 128) && (marks.raw || (unescape? true raw).isSome)

end RouteAtlas.Python
