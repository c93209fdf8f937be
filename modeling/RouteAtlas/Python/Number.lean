/-
Module: RouteAtlas.Python.Number
Layer: Python
Purpose: Numeric literals. Digits may be grouped by single underscores; a decimal integer other than
  zero has no leading zero; a fraction or an exponent makes the literal inexact, and so does the
  suffix `j`.
Trusted boundary: none
Main exports: digitValue?, digitRun, readNumber?
-/
import RouteAtlas.Python.Token

namespace RouteAtlas.Python

/-- The value of a digit in base `base`. -/
def digitValue? (base : Nat) (c : Char) : Option Nat :=
  let value? :=
    if '0' ≤ c ∧ c ≤ '9' then some (c.toNat - '0'.toNat)
    else if 'a' ≤ c ∧ c ≤ 'z' then some (c.toNat - 'a'.toNat + 10)
    else if 'A' ≤ c ∧ c ≤ 'Z' then some (c.toNat - 'A'.toNat + 10)
    else none
  value?.filter (· < base)

/-- Whether the text goes on with a digit. -/
def startsWithDigit (base : Nat) : List Char → Bool
  | [] => false
  | c :: _ => (digitValue? base c).isSome

/-- The digits at the beginning of the text, without the underscores between them. -/
def digitRun (base : Nat) : List Char → List Nat × List Char
  | [] => ([], [])
  | c :: rest =>
      match digitValue? base c with
      | some digit =>
          let run := digitRun base rest
          (digit :: run.1, run.2)
      | none =>
          if c = '_' && startsWithDigit base rest then digitRun base rest else ([], c :: rest)

/-- The number that digits stand for. -/
def ofDigits (base : Nat) (digits : List Nat) : Nat :=
  digits.foldl (fun value digit => value * base + digit) 0

/-- An integer after a prefix such as `0x`: at least one digit. -/
def readRadix? (base : Nat) (chars : List Char) : Option (Token × List Char) :=
  match digitRun base chars with
  | ([], _) => none
  | (digits, rest) => some (.int (ofDigits base digits), rest)

/-- Whether an exponent begins here. -/
def atExponent : List Char → Bool
  | e :: sign :: rest =>
      (e = 'e' || e = 'E') &&
        (startsWithDigit 10 (sign :: rest) ||
          ((sign = '+' || sign = '-') && startsWithDigit 10 rest))
  | _ => false

/-- Pass over an exponent, which must have digits once its letter is there. -/
def skipExponent? : List Char → Option (List Char)
  | [] => some []
  | c :: rest =>
      if c = 'e' || c = 'E' then
        let unsigned :=
          match rest with
          | '+' :: digits => digits
          | '-' :: digits => digits
          | digits => digits
        if startsWithDigit 10 unsigned then some (digitRun 10 unsigned).2 else none
      else some (c :: rest)

/-- Pass over the suffix of an imaginary number. -/
def skipImaginary : List Char → List Char
  | 'j' :: rest => rest
  | 'J' :: rest => rest
  | rest => rest

/-- What follows the digits before a point: the point, a fraction and an exponent. -/
def skipFraction? (chars : List Char) : Option (List Char) :=
  match chars with
  | '.' :: '_' :: _ => none
  | '.' :: rest => skipExponent? (digitRun 10 rest).2
  | rest => skipExponent? rest

/-- A decimal literal. -/
def readDecimal? (chars : List Char) : Option (Token × List Char) :=
  let (digits, rest) := digitRun 10 chars
  if atExponent rest || rest.head? = some '.' then
    (skipFraction? rest).map fun rest => (.inexact, skipImaginary rest)
  else if rest.head? = some 'j' || rest.head? = some 'J' then some (.inexact, rest.drop 1)
  else
    let value := ofDigits 10 digits
    if digits.head? = some 0 && value ≠ 0 then none else some (.int value, rest)

/-- A numeric literal at the beginning of the text. -/
def readNumber? (chars : List Char) : Option (Token × List Char) :=
  match chars with
  | '0' :: 'x' :: rest => readRadix? 16 rest
  | '0' :: 'X' :: rest => readRadix? 16 rest
  | '0' :: 'o' :: rest => readRadix? 8 rest
  | '0' :: 'O' :: rest => readRadix? 8 rest
  | '0' :: 'b' :: rest => readRadix? 2 rest
  | '0' :: 'B' :: rest => readRadix? 2 rest
  | rest => readDecimal? rest

end RouteAtlas.Python
