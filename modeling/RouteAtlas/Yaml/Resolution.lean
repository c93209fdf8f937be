/-
Module: RouteAtlas.Yaml.Resolution
Layer: Yaml
Purpose: Which plain words of a YAML text are read as something else than a text: nulls, truth values
  and numbers. A text that is one of them has to be quoted to be read back as a text.
Trusted boundary: none
Main exports: nullWords, boolWords, isInteger, isFinite, hasIdleZero, isAmbiguous
-/
import RouteAtlas.Text.Affix

namespace RouteAtlas.Yaml

/-- The words for null. -/
def nullWords : List String := ["", "null", "Null", "NULL", "~"]

/-- The words for the truth values. -/
def boolWords : List String := ["true", "True", "TRUE", "false", "False", "FALSE"]

/-- The words for numbers that are not finite. -/
def infiniteWords : List String := [
  ".inf", ".Inf", ".INF", "+.inf", "+.Inf", "+.INF", "-.inf", "-.Inf", "-.INF", ".nan", ".NaN",
  ".NAN"]

/-- A text without one plus sign at its beginning. -/
def withoutPlus : List Char → List Char
  | '+' :: rest => rest
  | chars => chars

/-- A text without one sign at its beginning. -/
def withoutSign : List Char → List Char
  | '+' :: rest => rest
  | '-' :: rest => rest
  | chars => chars

/-- The value of a digit to a base up to 16, in letters of either case. -/
def digitValue? (base : Nat) (c : Char) : Option Nat :=
  let value? :=
    if c.isDigit then some (c.toNat - 48)
    else if 'a' ≤ c && c ≤ 'f' then some (c.toNat - 87)
    else if 'A' ≤ c && c ≤ 'F' then some (c.toNat - 55)
    else none
  value?.filter (· < base)

/-- The number that some digits to a base are; there must be one digit at least. -/
def naturalOf? (base : Nat) (chars : List Char) : Option Nat :=
  match chars with
  | [] => none
  | _ =>
      chars.foldlM (fun total c => (digitValue? base c).map fun value => total * base + value) 0

/-- Whether some digits to a base are a number below a limit. -/
def isNaturalBelow (limit base : Nat) (chars : List Char) : Bool :=
  (naturalOf? base chars).any (· < limit)

/-- The bases with a mark of their own. -/
def markedBases : List (List Char × Nat) := [(['0', 'x'], 16), (['0', 'o'], 8), (['0', 'b'], 2)]

/-- Whether a text is a number in a base that is marked after `sign`. -/
def isMarkedInteger (sign : List Char) (limit : Nat) (chars : List Char) : Bool :=
  markedBases.any fun (mark, base) =>
    (Text.dropPrefix? (sign ++ mark) chars).any (isNaturalBelow limit base)

/-- Digits with a zero before them, such as `007`, are no number. -/
def hasIdleZero (chars : List Char) : Bool :=
  match withoutSign chars with
  | '0' :: rest => !rest.isEmpty && rest.all Char.isDigit
  | _ => false

/-- Whether a text is an integer of 128 bits, with or without a sign. -/
def isInteger (chars : List Char) : Bool :=
  let positive := withoutPlus chars
  isMarkedInteger [] (Nat.pow 2 128) positive || isMarkedInteger ['-'] (Nat.pow 2 127 + 1) chars ||
    (!hasIdleZero chars &&
      (isNaturalBelow (Nat.pow 2 128) 10 positive ||
        (chars.head? == some '-' && isNaturalBelow (Nat.pow 2 127 + 1) 10 (chars.drop 1))))

/-- Numbers from here on are nearer to infinity than to any 64-bit floating-point number. -/
def floatLimit : Nat := Nat.pow 2 1024 - Nat.pow 2 970

/-- The greatest number of decimal digits of a number below `floatLimit`. -/
def floatLimitDigits : Nat := 309

/-- The exponent that the end of a decimal number states: none is zero. -/
def exponentOf? : List Char → Option Int
  | [] => some 0
  | 'e' :: rest => signed rest
  | 'E' :: rest => signed rest
  | _ => none
where
  /-- A natural number with or without a sign. -/
  signed : List Char → Option Int
    | '-' :: digits => (naturalOf? 10 digits).map fun value => -(value : Int)
    | '+' :: digits => (naturalOf? 10 digits).map Int.ofNat
    | digits => (naturalOf? 10 digits).map Int.ofNat

/-- Whether the digits `mantissa` times ten to the power `exponent` are a number that is not
infinite. Far from the limit the number of digits decides. -/
def isBelowFloatLimit (mantissa : List Char) (exponent : Int) : Bool :=
  match mantissa.dropWhile (· = '0') with
  | [] => true
  | digits =>
      let size : Int := digits.length + exponent
      if size > floatLimitDigits then false
      else if size < floatLimitDigits then true
      else
        let value := (naturalOf? 10 digits).getD 0
        if exponent ≥ 0 then value * Nat.pow 10 exponent.toNat < floatLimit
        else value < floatLimit * Nat.pow 10 (-exponent).toNat

/-- Whether a text is a decimal number that is not infinite. It needs a digit on one side of the
point. -/
def isDecimal (chars : List Char) : Bool :=
  let whole := chars.takeWhile Char.isDigit
  let rest := chars.drop whole.length
  let fraction :=
    match rest with
    | '.' :: more => more.takeWhile Char.isDigit
    | _ => []
  let ending :=
    match rest with
    | '.' :: more => more.drop fraction.length
    | _ => rest
  let mantissa := whole ++ fraction
  !mantissa.isEmpty &&
    (exponentOf? ending).any fun exponent =>
      isBelowFloatLimit mantissa (exponent - fraction.length)

/-- Whether a text is a finite number, with one sign at most. -/
def isFinite (chars : List Char) : Bool := isDecimal (withoutSign chars)

/-- Whether a plain text would be read as something else. Digits with idle zeros are counted in,
because not all readers agree on them. -/
def isAmbiguous (text : String) : Bool :=
  let chars := text.toList
  nullWords.contains text || boolWords.contains text || infiniteWords.contains text ||
    hasIdleZero chars || isInteger chars || isFinite chars

end RouteAtlas.Yaml
