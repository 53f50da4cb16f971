/-!
# Numerals

Writing numbers in decimal, hexadecimal and binary, placing them in columns,
and reading decimal numerals that have a greatest value.

A numeral is read from the left, and the first thing wrong with it decides:
`readDecimal` reports a character that is no digit before it looks at the size
of the number, and a number that has grown past the limit before it looks at
the next character.
-/

namespace AccumulatorMachine.Text

/-- The decimal digits of a number. -/
def decimal (n : Nat) : String :=
  String.ofList (Nat.toDigits 10 n)

/-- The hexadecimal digits of a number, with small letters. -/
def hexadecimal (n : Nat) : String :=
  String.ofList (Nat.toDigits 16 n)

/-- The bits of a byte, the highest first. -/
def bits (byte : UInt8) : List Bool :=
  [7, 6, 5, 4, 3, 2, 1, 0].map fun place => byte.toNat.testBit place

/-- The eight binary digits of a byte. -/
def binary (byte : UInt8) : String :=
  String.ofList ((bits byte).map fun bit => if bit then '1' else '0')

/-- The text in at least `width` columns, filled from the left with `fill`. -/
def alignRight (width : Nat) (fill : Char) (text : String) : String :=
  String.ofList (text.toList.leftpad width fill)

/-- The text in at least `width` columns, filled from the right with spaces. -/
def alignLeft (width : Nat) (text : String) : String :=
  String.ofList (text.toList.rightpad width ' ')

/-- What is wrong with a decimal numeral. -/
inductive NumeralFlaw
  /-- A character is not a digit, or there is none at all. -/
  | invalidDigit
  /-- The number exceeds the limit. -/
  | tooLarge
  deriving DecidableEq

/-- Reads on from the digits that gave `value` so far. -/
def readDecimalFrom (limit : Nat) : Nat → List Char → Except NumeralFlaw Nat
  | value, [] => .ok value
  | value, c :: rest =>
    if c.isDigit then
      let grown := value * 10 + (c.toNat - '0'.toNat)
      if grown ≤ limit then readDecimalFrom limit grown rest else .error .tooLarge
    else .error .invalidDigit

/-- Reads a numeral of one or more digits whose value is at most `limit`. -/
def readDecimal (limit : Nat) (digits : List Char) : Except NumeralFlaw Nat :=
  if digits.isEmpty then .error .invalidDigit else readDecimalFrom limit 0 digits

/-- Reads a numeral that may carry one leading plus sign. -/
def readSignedDecimal (limit : Nat) : List Char → Except NumeralFlaw Nat
  | '+' :: digits => readDecimal limit digits
  | digits => readDecimal limit digits

end AccumulatorMachine.Text
