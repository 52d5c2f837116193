import PageModel.Unicode.RangeTable

/-!
# Digits

The numbers that rows of digits denote, in the base ten and in bases up to sixteen.
-/

namespace PageModel

/-- The value of a decimal digit. -/
def digitValue (c : Char) : Nat :=
  c.toNat - '0'.toNat

/-- The number that a row of decimal digits denotes. -/
def decimalValue (digits : List Char) : Nat :=
  digits.foldl (fun n c => 10 * n + digitValue c) 0

/-- Whether a character is a digit of base 16. -/
def isHexDigit (c : Char) : Bool :=
  (Unicode.hexDigit? c).isSome

/-- The number that a row of digits denotes in a base up to 16. -/
def valueIn (base : Nat) (digits : List Char) : Nat :=
  digits.foldl (fun n c => base * n + (Unicode.hexDigit? c).getD 0) 0

end PageModel
