import PageModel.Error
import PageModel.Number.Digits
import PageModel.Unicode.Blank

/-!
# Settings

How many pages are worked on at once, and how long to wait for one. Both are read from texts, which
are positive decimal numbers of 64 bits, possibly with a plus sign and with white space around them.
-/

namespace PageModel

/-- The settings of a run. -/
structure Settings where
  concurrency : Nat := 4
  timeoutSeconds : Nat := 30
deriving Repr, DecidableEq

namespace Settings

/-- The name of the setting for the number of pages at once. -/
def concurrencyName : String := "SIFT_CONCURRENCY"

/-- The name of the setting for the time to wait. -/
def timeoutName : String := "SIFT_FETCH_TIMEOUT_SECS"

/-- The number of 64 bits that is written as decimal digits. -/
def readDigits? (ds : List Char) : Option Nat :=
  if ds.isEmpty || !ds.all Char.isDigit then none
  else if UInt64.size ≤ decimalValue ds then none
  else some (decimalValue ds)

/-- The number of 64 bits that is written as decimal digits, possibly after a plus sign. -/
def readUnsigned? : List Char → Option Nat
  | '+' :: ds => readDigits? ds
  | ds => readDigits? ds

/-- The positive number that a setting is set to. -/
def readPositive (setting value : String) : Except Error Nat :=
  match readUnsigned? (Unicode.trim value.toList) with
  | none => .error (.config (.notPositive setting value))
  | some 0 => .error (.config (.zero setting))
  | some n => .ok n

/-- The number that a setting is set to, or the default where it is not set. -/
def readOr (setting : String) (default : Nat) : Option String → Except Error Nat
  | none => .ok default
  | some value => readPositive setting value

/-- The settings that are given by texts, with the defaults where there are none. -/
def read (concurrency timeout : Option String) : Except Error Settings :=
  match readOr concurrencyName ({} : Settings).concurrency concurrency with
  | .error e => .error e
  | .ok concurrency =>
      (readOr timeoutName ({} : Settings).timeoutSeconds timeout).map fun timeoutSeconds =>
        { concurrency, timeoutSeconds }

/-- Settings with another number of pages at once, which is at least one. -/
def withConcurrency (s : Settings) (n : Nat) : Settings :=
  { s with concurrency := max n 1 }

end Settings

end PageModel
