/-
Module: RouteAtlas.Json.Reading
Layer: Json
Purpose: JSON values from their texts. Of two members of one name in an object the last one counts.
Trusted boundary: none
Main exports: Json.parse?
-/
import RouteAtlas.Json.Value

namespace RouteAtlas.Json

/-- A character between the tokens of a text. -/
def isGap (c : Char) : Bool := c = ' ' || c = '\t' || c = '\n' || c = '\r'

/-- Pass over what is between two tokens. -/
def skipGap (chars : List Char) : List Char := chars.dropWhile isGap

/-! ### Texts -/

/-- The value of a digit to base 16. -/
def hexDigit? (c : Char) : Option Nat :=
  if c.isDigit then some (c.toNat - '0'.toNat)
  else if 'a' ≤ c && c ≤ 'f' then some (c.toNat - 'a'.toNat + 10)
  else if 'A' ≤ c && c ≤ 'F' then some (c.toNat - 'A'.toNat + 10)
  else none

/-- The number that four digits to base 16 make up. -/
def hexUnit? (a b c d : Char) : Option Nat := do
  return ((← hexDigit? a) * 16 + (← hexDigit? b)) * 256 + (← hexDigit? c) * 16 + (← hexDigit? d)

/-- The character of an escape with one letter. -/
def shortEscape? : Char → Option Char
  | '"' => some '"'
  | '\\' => some '\\'
  | '/' => some '/'
  | 'b' => some '\x08'
  | 'f' => some '\x0c'
  | 'n' => some '\n'
  | 'r' => some '\r'
  | 't' => some '\t'
  | _ => none

/-- A character and the characters after it. -/
def before (c : Char) (read : Option (List Char × List Char)) : Option (List Char × List Char) :=
  read.map fun (chars, rest) => (c :: chars, rest)

/-- Read a text up to its closing quote. A character that needs two units of 16 bits is written as
both of them; half of such a pair is no character. -/
def readText? : List Char → Option (List Char × List Char)
  | [] => none
  | '"' :: rest => some ([], rest)
  | '\\' :: 'u' :: a :: b :: c :: d :: '\\' :: 'u' :: e :: f :: g :: h :: rest =>
      match hexUnit? a b c d, hexUnit? e f g h with
      | some high, some low =>
          if 0xD800 ≤ high && high < 0xDC00 then
            if 0xDC00 ≤ low && low < 0xE000 then
              before (Char.ofNat (0x10000 + (high - 0xD800) * 0x400 + (low - 0xDC00))) (readText? rest)
            else none
          else if 0xDC00 ≤ high && high < 0xE000 then none
          else
            before (Char.ofNat high) (readText? ('\\' :: 'u' :: e :: f :: g :: h :: rest))
      | _, _ => none
  | '\\' :: 'u' :: a :: b :: c :: d :: rest =>
      match hexUnit? a b c d with
      | some unit =>
          if 0xD800 ≤ unit && unit < 0xE000 then none
          else before (Char.ofNat unit) (readText? rest)
      | none => none
  | '\\' :: letter :: rest =>
      match shortEscape? letter with
      | some c => before c (readText? rest)
      | none => none
  | c :: rest => if c.toNat < 0x20 || c = '\\' then none else before c (readText? rest)

/-! ### Numbers -/

/-- Whether digits make up the whole part of a number: no zero is in front of others. -/
def isWhole (digits : List Char) : Bool :=
  !digits.isEmpty && (digits.head? ≠ some '0' || digits.length = 1)

/-- The digits with which some characters begin, and the characters after them. -/
def takeDigits (chars : List Char) : List Char × List Char := chars.span Char.isDigit

/-- Read the fraction of a number, if it has one. -/
def readFraction? : List Char → Option (List Char × List Char)
  | '.' :: rest =>
      let (digits, rest) := takeDigits rest
      if digits.isEmpty then none else some ('.' :: digits, rest)
  | chars => some ([], chars)

/-- Read the exponent of a number, if it has one. -/
def readExponent? : List Char → Option (List Char × List Char)
  | c :: rest =>
      if c = 'e' || c = 'E' then
        let (sign, rest) :=
          match rest with
          | '+' :: rest => (['+'], rest)
          | '-' :: rest => (['-'], rest)
          | rest => ([], rest)
        let (digits, rest) := takeDigits rest
        if digits.isEmpty then none else some (c :: sign ++ digits, rest)
      else some ([], c :: rest)
  | [] => some ([], [])

/-- The natural number of some decimal digits. -/
def naturalOf (digits : List Char) : Nat :=
  digits.foldl (fun value c => 10 * value + (c.toNat - '0'.toNat)) 0

/-- Read a number. A zero with a sign is no integer. -/
def readNumber? (chars : List Char) : Option (Json × List Char) := do
  let (negative, rest) :=
    match chars with
    | '-' :: rest => (true, rest)
    | chars => (false, chars)
  let (whole, rest) := takeDigits rest
  let (fraction, rest) ← readFraction? rest
  let (exponent, rest) ← readExponent? rest
  if !isWhole whole then none
  else
    let value := naturalOf whole
    if fraction.isEmpty && exponent.isEmpty && !(negative && value = 0) then
      some (.integer (if negative then -(value : Int) else value), rest)
    else
      let sign := if negative then ['-'] else []
      some (.decimal (String.ofList (sign ++ whole ++ fraction ++ exponent)), rest)

/-! ### Values -/

/-- A member in front of others, unless one of them has its name. -/
def addMember (name : String) (value : Json) (members : List (String × Json)) :
    List (String × Json) :=
  if KeyMap.contains name members then members else (name, value) :: members

mutual

/-- Read a value. `fuel` is more than twice the number of characters. -/
def readValue? (fuel : Nat) (chars : List Char) : Option (Json × List Char) :=
  match fuel with
  | 0 => none
  | fuel + 1 =>
      match skipGap chars with
      | 'n' :: 'u' :: 'l' :: 'l' :: rest => some (.null, rest)
      | 't' :: 'r' :: 'u' :: 'e' :: rest => some (.bool true, rest)
      | 'f' :: 'a' :: 'l' :: 's' :: 'e' :: rest => some (.bool false, rest)
      | '"' :: rest => (readText? rest).map fun (chars, rest) => (.text (String.ofList chars), rest)
      | '[' :: rest =>
          match skipGap rest with
          | ']' :: rest => some (.array [], rest)
          | rest => (readItems? fuel rest).map fun (items, rest) => (.array items, rest)
      | '{' :: rest =>
          match skipGap rest with
          | '}' :: rest => some (.object [], rest)
          | rest => (readMembers? fuel rest).map fun (members, rest) => (.object members, rest)
      | chars => readNumber? chars

/-- Read the items of an array up to its closing bracket. -/
def readItems? (fuel : Nat) (chars : List Char) : Option (List Json × List Char) :=
  match fuel with
  | 0 => none
  | fuel + 1 =>
      match readValue? fuel chars with
      | none => none
      | some (item, rest) =>
          match skipGap rest with
          | ',' :: rest => (readItems? fuel rest).map fun (items, rest) => (item :: items, rest)
          | ']' :: rest => some ([item], rest)
          | _ => none

/-- Read the members of an object up to its closing brace. -/
def readMembers? (fuel : Nat) (chars : List Char) : Option (List (String × Json) × List Char) :=
  match fuel with
  | 0 => none
  | fuel + 1 =>
      match skipGap chars with
      | '"' :: rest =>
          match readText? rest with
          | none => none
          | some (name, rest) =>
              match skipGap rest with
              | ':' :: rest =>
                  match readValue? fuel rest with
                  | none => none
                  | some (value, rest) =>
                      match skipGap rest with
                      | ',' :: rest =>
                          (readMembers? fuel rest).map fun (members, rest) =>
                            (addMember (String.ofList name) value members, rest)
                      | '}' :: rest => some ([(String.ofList name, value)], rest)
                      | _ => none
              | _ => none
      | _ => none

end

/-- The value of a text. -/
def parse? (text : String) : Option Json :=
  let chars := text.toList
  match readValue? (2 * chars.length + 2) chars with
  | some (value, rest) => if (skipGap rest).isEmpty then some value else none
  | none => none

/-- The member of an object. -/
def member? (name : String) : Json → Option Json
  | .object members => KeyMap.find? name members
  | _ => none

end RouteAtlas.Json
