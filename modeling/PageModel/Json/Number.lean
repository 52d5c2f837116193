import PageModel.Number.Digits
import PageModel.Number.Shortest

/-!
# Numbers of JSON texts

A number is an integer if it is written as one and fits into 64 bits, and a floating-point number
otherwise. The text of a floating-point number gives its shortest decimal, with a point where
that takes at most 16 places before it or four zeros after it, and with a signed exponent elsewhere.
-/

namespace PageModel.Json

/-- A number. -/
inductive Number where
  | integer (n : Int)
  | decimal (x : Binary64)
deriving Repr, DecidableEq

/-! ### Text -/

/-- The digits of a number in the base ten. -/
def digits (n : Nat) : List Char :=
  Nat.toDigits 10 n

/-- The text of an integer. -/
def integerChars (n : Int) : List Char :=
  if n < 0 then '-' :: digits n.natAbs else digits n.natAbs

/-- As many zeros as asked for. -/
def zeros (n : Nat) : List Char :=
  List.replicate n '0'

/-- The text of an exponent, with its sign. -/
def exponentChars (n : Int) : List Char :=
  'e' :: (if n < 0 then '-' else '+') :: digits n.natAbs

/-- The text of a decimal number that is positive. -/
def decimalChars (d : Decimal) : List Char :=
  let ds := digits d.digits
  let point : Int := ds.length + d.exponent
  if 0 ≤ d.exponent ∧ point ≤ 16 then ds ++ zeros d.exponent.toNat ++ ['.', '0']
  else if 0 < point ∧ point ≤ 16 then ds.take point.toNat ++ '.' :: ds.drop point.toNat
  else if -5 < point ∧ point ≤ 0 then ['0', '.'] ++ zeros (-point).toNat ++ ds
  else
    let fraction := if ds.length = 1 then [] else '.' :: ds.drop 1
    ds.take 1 ++ fraction ++ exponentChars (point - 1)

/-- The text of a floating-point number. -/
def binary64Chars (x : Binary64) : List Char :=
  (if x.negative then ['-'] else []) ++
    if x.isZero then ['0', '.', '0'] else decimalChars x.shortest

/-- The text of a number. -/
def Number.chars : Number → List Char
  | .integer n => integerChars n
  | .decimal x => binary64Chars x

/-- Whether two numbers are equal; an integer equals no floating-point number. -/
def Number.same : Number → Number → Bool
  | .integer n, .integer m => n == m
  | .decimal x, .decimal y => x.sameValue y
  | _, _ => false

/-! ### Value -/

/-- The greatest number that an unsigned integer of 64 bits holds. -/
def maxUnsigned : Nat :=
  UInt64.size - 1

/-- The greatest magnitude of a negative integer of 64 bits. -/
def maxNegated : Nat :=
  0x8000000000000000

/-- A significand continued by digits as long as it fits into 64 bits, and the digits left. -/
def absorb (significand : Nat) : List Char → Nat × List Char
  | [] => (significand, [])
  | c :: cs =>
      let next := significand * 10 + digitValue c
      if maxUnsigned < next then (significand, c :: cs) else absorb next cs

/-- A magnitude times a power of ten, rounded after each step; a power below `10 ^ -308` is taken
in steps. There is none where it is too large. -/
def scaleByTen (x : Binary64) (exponent : Int) : (steps : Nat) → Option Binary64
  | 0 => some x
  | steps + 1 =>
      if x.isZero then some x
      else if 308 < exponent then none
      else if 0 ≤ exponent then
        (Binary64.ofNat? false (Nat.pow 10 exponent.toNat)).bind x.mul?
      else if -308 ≤ exponent then
        (Binary64.ofNat? false (Nat.pow 10 (-exponent).toNat)).bind x.div?
      else
        match (Binary64.ofNat? false (Nat.pow 10 308)).bind x.div? with
        | some y => scaleByTen y (exponent + 308) steps
        | none => none

/-- The floating-point number `significand * 10 ^ exponent`, unless it is too large. -/
def ofSignificand (negative : Bool) (significand : Nat) (exponent : Int) : Option Number :=
  (Binary64.ofNat? false significand).bind fun x =>
    (scaleByTen x exponent (exponent.natAbs / 308 + 1)).map fun y =>
      .decimal { y with negative := negative }

/-- The parts of a number that is written out. -/
structure NumberParts where
  negative : Bool
  whole : List Char
  fraction : Option (List Char)
  exponent : Option (Bool × List Char)
deriving Repr, DecidableEq

/-- The greatest exponent that is told apart from all greater ones. -/
def maxExponent : Nat :=
  0x7FFFFFFF

/-- The number that its parts denote, unless it is too large. -/
def NumberParts.value? (p : NumberParts) : Option Number :=
  let (whole, rest) := absorb 0 p.whole
  match p.fraction, p.exponent, rest with
  | none, none, [] =>
      if !p.negative then some (.integer whole)
      else if whole = 0 ∨ maxNegated < whole then ofSignificand true whole 0
      else some (.integer (-whole))
  | fraction, exponent, _ =>
      let fraction := fraction.getD []
      let (significand, unused) := absorb whole fraction
      let places : Int := (rest.length : Int) - (fraction.length - unused.length : Nat)
      match exponent with
      | none => ofSignificand p.negative significand places
      | some (negativeExponent, ds) =>
          let e := decimalValue ds
          if maxExponent < e then
            if significand ≠ 0 ∧ !negativeExponent then none
            else some (.decimal (.zero p.negative))
          else
            ofSignificand p.negative significand
              (if negativeExponent then places - e else places + e)

end PageModel.Json
