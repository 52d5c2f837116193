import PageModel.Number.Binary64

/-!
# The shortest decimal

Among the decimal numbers that are rounded to a given floating-point number those with the fewest
digits are the shortest, and of these the one nearest to the number is its decimal.
-/

namespace PageModel

/-- A decimal number `digits * 10 ^ exponent`. -/
structure Decimal where
  digits : Nat
  exponent : Int
deriving Repr, DecidableEq

namespace Binary64

/-- Whether `num / den ≤ num' / den'`. -/
def ratioLe (a b : Nat × Nat) : Bool :=
  a.1 * b.2 ≤ b.1 * a.2

/-- The ends of the interval of the numbers that are rounded to a positive number, in quarters of
its last place. -/
def interval (x : Binary64) : Nat × Nat :=
  (if x.mantissa = leastFull ∧ -1074 < x.exponent then 4 * x.mantissa - 1 else 4 * x.mantissa - 2,
    4 * x.mantissa + 2)

/-- Whether a decimal number is rounded to a positive number. -/
def isRoundedFrom (x : Binary64) (d : Decimal) : Bool :=
  let value := rescale 10 d.digits 1 (-d.exponent)
  let (lo, hi) := x.interval
  let lo := rescale 2 lo 1 (2 - x.exponent)
  let hi := rescale 2 hi 1 (2 - x.exponent)
  if x.mantissa % 2 = 0 then ratioLe lo value && ratioLe value hi
  else !ratioLe value lo && !ratioLe hi value

/-- The exponent of the first decimal place of a positive ratio. -/
def firstPlace (num den : Nat) : Int :=
  let guess : Int := ((num.log2 : Int) - den.log2) * 30103 / 100000
  let fits (e : Int) : Bool :=
    let (n, d) := rescale 10 num den e
    d ≤ n
  if fits (guess + 2) then guess + 2
  else if fits (guess + 1) then guess + 1
  else if fits guess then guess
  else if fits (guess - 1) then guess - 1
  else guess - 2

/-- The neighbours of a positive number among the multiples of a power of ten, the nearer one
first. -/
def neighbours (x : Binary64) (exponent : Int) : List Decimal :=
  let (num, den) := x.toRatio
  let (n, d) := rescale 10 num den exponent
  let below := n / d
  let nearest := roundDiv n d
  let other := if nearest = below then below + 1 else below
  [⟨nearest, exponent⟩, ⟨other, exponent⟩]

/-- The nearest decimal with at least `17 - more` digits that is rounded to a positive number. -/
def shortestFrom (x : Binary64) (first : Int) : (more : Nat) → Decimal
  | 0 => (x.neighbours (first - 16)).headD ⟨0, 0⟩
  | more + 1 =>
      match (x.neighbours (first - 16 + (more + 1))).find? x.isRoundedFrom with
      | some d => d
      | none => shortestFrom x first more

/-- A decimal without zeros at the end of its digits, of which there are at most `more`. -/
def dropZeros : (more : Nat) → Decimal → Decimal
  | 0, d => d
  | more + 1, d =>
      if d.digits % 10 = 0 then dropZeros more ⟨d.digits / 10, d.exponent + 1⟩ else d

/-- The shortest decimal of the magnitude of a number that is not zero. -/
def shortest (x : Binary64) : Decimal :=
  let (num, den) := x.toRatio
  dropZeros 17 (x.shortestFrom (firstPlace num den) 16)

/-! ### Examples -/

example : shortest ⟨false, 7205759403792794, -56⟩ = ⟨1, -1⟩ := by decide +kernel

example : shortest ⟨false, 1, -1074⟩ = ⟨5, -324⟩ := by decide +kernel

example : shortest ⟨false, 2 ^ 53 - 1, 971⟩ = ⟨17976931348623157, 292⟩ := by decide +kernel

end Binary64

end PageModel
