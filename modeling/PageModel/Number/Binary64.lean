/-!
# Floating-point numbers

Finite floating-point numbers of double precision, as a sign and a magnitude that is a multiple of
a power of two. A ratio of natural numbers is rounded to the nearest of them, a tie going to the
even neighbour; products and quotients are the exact results, rounded.
-/

namespace PageModel

/-- A finite floating-point number of double precision; its magnitude is
`mantissa * 2 ^ exponent`. -/
structure Binary64 where
  negative : Bool
  mantissa : Nat
  exponent : Int
deriving Repr, DecidableEq

/-- A quotient rounded to the nearest natural number, a tie going to the even one. -/
def roundDiv (num den : Nat) : Nat :=
  let q := num / den
  let r := num % den
  if 2 * r < den then q
  else if den < 2 * r then q + 1
  else if q % 2 = 0 then q else q + 1

/-- The ratio `num / den / base ^ e`. -/
def rescale (base num den : Nat) (e : Int) : Nat × Nat :=
  if 0 ≤ e then (num, den * Nat.pow base e.toNat) else (num * Nat.pow base (-e).toNat, den)

namespace Binary64

/-- The least mantissa with all 53 binary places. -/
def leastFull : Nat :=
  0x10000000000000

/-- Zero. -/
def zero (negative : Bool) : Binary64 :=
  ⟨negative, 0, -1074⟩

/-- Whether a number is zero. -/
def isZero (x : Binary64) : Bool :=
  x.mantissa == 0

/-- The exponent of the last binary place that is kept of a positive ratio: 53 places from the
first one that is not zero, and none below the smallest there is. -/
def lastPlace (num den : Nat) : Int :=
  let e : Int := (num.log2 : Int) - den.log2
  let (n, d) := rescale 2 num den e
  let top := if n < d then e - 1 else e
  max (top - 52) (-1074)

/-- The number nearest to a ratio, unless it is too large. -/
def ofRatio? (negative : Bool) (num den : Nat) : Option Binary64 :=
  if num = 0 then some (zero negative)
  else
    let e := lastPlace num den
    let (n, d) := rescale 2 num den e
    let m := roundDiv n d
    let (m, e) := if m = 2 * leastFull then (leastFull, e + 1) else (m, e)
    if 971 < e then none else some ⟨negative, m, e⟩

/-- The number nearest to a natural number, unless it is too large. -/
def ofNat? (negative : Bool) (n : Nat) : Option Binary64 :=
  ofRatio? negative n 1

/-- The magnitude of a number as a ratio. -/
def toRatio (x : Binary64) : Nat × Nat :=
  rescale 2 x.mantissa 1 (-x.exponent)

/-- The product of two numbers, unless it is too large. -/
def mul? (x y : Binary64) : Option Binary64 :=
  let (n, d) := x.toRatio
  let (n', d') := y.toRatio
  ofRatio? (x.negative != y.negative) (n * n') (d * d')

/-- The quotient of two numbers, the second not zero, unless it is too large. -/
def div? (x y : Binary64) : Option Binary64 :=
  let (n, d) := x.toRatio
  let (n', d') := y.toRatio
  ofRatio? (x.negative != y.negative) (n * d') (d * n')

/-- Whether two numbers are equal as numbers: zero has no sign. -/
def sameValue (x y : Binary64) : Bool :=
  x == y || (x.isZero && y.isZero)

/-! ### Examples -/

example : ofRatio? false 1 10 = some ⟨false, 7205759403792794, -56⟩ := by decide +kernel

example : ofNat? true (2 ^ 53 + 1) = some ⟨true, 2 ^ 52, 1⟩ := by decide +kernel

example : ofNat? false (2 ^ 1024) = none := by decide +kernel

end Binary64

end PageModel
