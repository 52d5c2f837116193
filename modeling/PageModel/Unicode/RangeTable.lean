/-!
# Sets of characters given by ranges

A set of characters that a standard lists by code points is a table of ranges. A table is
written in rows of text, `lo-hi` in hexadecimal with blanks between the ranges, a range of one
code point being that point alone. Membership is decided by bisection, since the ranges of a
table increase.
-/

namespace PageModel.Unicode

/-- The value of a hexadecimal digit. -/
def hexDigit? (c : Char) : Option Nat :=
  if '0' ≤ c ∧ c ≤ '9' then some (c.toNat - 48)
  else if 'a' ≤ c ∧ c ≤ 'f' then some (c.toNat - 87)
  else if 'A' ≤ c ∧ c ≤ 'F' then some (c.toNat - 55)
  else none

/-- A set of code points, as its ranges in increasing order, ends included. -/
structure RangeTable where
  ranges : Array (Nat × Nat)
deriving Repr, DecidableEq, Inhabited

namespace RangeTable

/-- The ranges read from a row, after those read before: `lo` holds the start of a range once its
dash is read, `n` the number being read. -/
def readRanges :
    List Char → (lo : Option Nat) → (n : Nat) → Array (Nat × Nat) → Array (Nat × Nat)
  | [], lo, n, acc => acc.push (lo.getD n, n)
  | c :: cs, lo, n, acc =>
      if c = '-' then
        readRanges cs (some n) 0 acc
      else if c = ' ' then
        readRanges cs none 0 (acc.push (lo.getD n, n))
      else
        readRanges cs lo (16 * n + (hexDigit? c).getD 0) acc

/-- The table written in rows of text. -/
def ofRows (rows : List String) : RangeTable :=
  ⟨rows.foldl (fun ranges row => readRanges row.toList none 0 ranges) #[]⟩

/-- Whether one of the ranges from index `lo` up to index `hi`, excluded, holds `n`. -/
def containsBetween (t : RangeTable) (n lo hi : Nat) : Bool :=
  if lo < hi then
    let mid := (lo + hi) / 2
    match t.ranges[mid]? with
    | none => false
    | some (a, b) =>
        if n < a then t.containsBetween n lo mid
        else if b < n then t.containsBetween n (mid + 1) hi
        else true
  else
    false
termination_by hi - lo

/-- Membership of a character. -/
def contains (t : RangeTable) (c : Char) : Bool :=
  t.containsBetween c.toNat 0 t.ranges.size

end RangeTable

end PageModel.Unicode
