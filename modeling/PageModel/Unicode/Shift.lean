/-!
# Shifts of characters

A map of characters that a standard lists, such as lower-casing, moves runs of characters by
one distance each. A run is given by its first and last code point, its stride, and the
distance.
-/

namespace PageModel.Unicode

/-- The code points from `first` to `last` with stride `stride`, moved by `distance`. -/
structure Shift where
  first : Nat
  last : Nat
  stride : Nat
  distance : Int
deriving Repr, DecidableEq

namespace Shift

/-- Whether a run holds a code point. -/
def covers (s : Shift) (n : Nat) : Bool :=
  s.first ≤ n && n ≤ s.last && (n - s.first) % s.stride == 0

/-- The image of a code point under a run. -/
def image (s : Shift) (n : Nat) : Nat :=
  ((n : Int) + s.distance).toNat

/-- The image of a character under a list of runs; a character in no run is its own image. -/
def map (shifts : List Shift) (c : Char) : Char :=
  match shifts.find? (·.covers c.toNat) with
  | some s => Char.ofNat (s.image c.toNat)
  | none => c

/-- The characters other than `c` that a list of runs maps to `c`. -/
def preimages (shifts : List Shift) (c : Char) : List Char :=
  shifts.filterMap fun s =>
    let n := ((c.toNat : Int) - s.distance).toNat
    if s.covers n && s.image n == c.toNat then some (Char.ofNat n) else none

end Shift

end PageModel.Unicode
