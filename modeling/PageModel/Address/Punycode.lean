/-!
# Punycode

A label of a domain name that is written in ASCII after the letters `xn--`: first the ASCII
characters of the label, then the others as numbers. Each number tells how far to go from one
insertion to the next, over all places and characters; its digits have weights that adapt to the
numbers before it.
-/

namespace PageModel.Address.Punycode

/-- The value of a digit: letters stand for the numbers up to 25, digits for those after them. -/
def digitValue? (c : Char) : Option Nat :=
  if 'a' ≤ c ∧ c ≤ 'z' then some (c.toNat - 'a'.toNat)
  else if '0' ≤ c ∧ c ≤ '9' then some (c.toNat - '0'.toNat + 26)
  else none

/-- The least digit that goes on, at the place `k` of a number. -/
def threshold (k bias : Nat) : Nat :=
  if k ≤ bias then 1 else if bias + 26 ≤ k then 26 else k - bias

/-- The number of places by which a number is longer than one that is below 456. -/
def adaptFrom (delta k : Nat) : Nat :=
  if 455 < delta then adaptFrom (delta / 35) (k + 36) else k + 36 * delta / (delta + 38)
termination_by delta
decreasing_by omega

/-- The bias after a number, `count` characters being there and `isFirst` telling whether it was
the first number. -/
def adapt (delta count : Nat) (isFirst : Bool) : Nat :=
  let delta := if isFirst then delta / 700 else delta / 2
  adaptFrom (delta + delta / count) 0

/-- The state of reading: the characters so far, the last character and place of insertion, the
bias, and of the number being read its start, its next place and the weight of that. -/
structure State where
  chars : List Nat
  code : Nat := 128
  position : Nat := 0
  bias : Nat := 72
  start : Nat := 0
  place : Nat := 36
  weight : Nat := 1
deriving Repr, DecidableEq

/-- Whether a number is being read. -/
def State.isOpen (s : State) : Bool :=
  s.place != 36

/-- The state with a character put in. -/
def State.insert (s : State) : State :=
  let count := s.chars.length + 1
  let code := s.code + s.position / count
  let position := s.position % count
  { chars := s.chars.take position ++ code :: s.chars.drop position
    code
    position := position + 1
    bias := adapt (s.position - s.start) count (s.start == 0)
    start := position + 1 }

/-- The state after a digit, unless there is no character of so great a number. -/
def State.read (s : State) (digit : Nat) : Option State :=
  let s := { s with position := s.position + digit * s.weight }
  let t := threshold s.place s.bias
  if 0x10FFFF * (s.chars.length + 1) < s.position then none
  else if digit < t then
    let s := s.insert
    if 0x10FFFF < s.code then none else some s
  else some { s with place := s.place + 36, weight := s.weight * (36 - t) }

/-- The state after digits. -/
def readDigits (s : State) : List Char → Option State
  | [] => if s.isOpen then none else some s
  | c :: cs =>
      match digitValue? c with
      | none => none
      | some d =>
          match s.read d with
          | none => none
          | some s => readDigits s cs

/-- The label that is written after the letters `xn--`. -/
def decode (cs : List Char) : Option (List Char) :=
  let digits := (cs.reverse.takeWhile (· ≠ '-')).reverse
  let basic := cs.take (cs.length - digits.length - 1)
  let digits := if basic.isEmpty then cs else digits
  match readDigits { chars := basic.map Char.toNat } digits with
  | none => none
  | some s => s.chars.mapM fun n => if n.isValidChar then some (Char.ofNat n) else none

/-! ### Examples -/

example : decode "mnchen-3ya".toList = some "münchen".toList := by decide +kernel

example : decode "ls8h".toList = some "💩".toList := by decide +kernel

end PageModel.Address.Punycode
