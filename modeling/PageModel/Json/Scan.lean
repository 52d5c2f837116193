import PageModel.Json.Fault
import PageModel.Unicode.RangeTable

/-!
# Parts of JSON texts

White space, literals, strings and numbers at the start of a text. Each reader gives what it has
read and the text after it. A value that nobody asks for is passed over; its strings and numbers
need not denote anything.
-/

namespace PageModel.Json

/-- What a reader gives: a value and the text after it, or a fault. -/
abbrev Reading (α : Type) := Except Fault (α × List Char)

/-- White space. -/
def isSpace (c : Char) : Bool :=
  c = ' ' || c = '\n' || c = '\t' || c = '\r'

/-- A text without its leading white space. -/
def skipSpace (cs : List Char) : List Char :=
  cs.dropWhile isSpace

/-- A text after a given start. -/
def dropStart? (start : List Char) (cs : List Char) : Option (List Char) :=
  if start.isPrefixOf cs then some (cs.drop start.length) else none

/-! ### Strings -/

/-- The number that four digits of base 16 denote. -/
def hexUnit? (a b c d : Char) : Option Nat := do
  let a ← Unicode.hexDigit? a
  let b ← Unicode.hexDigit? b
  let c ← Unicode.hexDigit? c
  let d ← Unicode.hexDigit? d
  return ((a * 16 + b) * 16 + c) * 16 + d

/-- The character that a letter after a backslash denotes. -/
def shortEscape? : Char → Option Char
  | '"' => some '"'
  | '\\' => some '\\'
  | '/' => some '/'
  | 'b' => some '\x08'
  | 'f' => some '\x0c'
  | 'n' => some '\n'
  | 'r' => some '\r'
  | 't' => some '\t'
  | _ => none

/-- Whether a unit is the first of a pair. -/
def isHighSurrogate (n : Nat) : Bool :=
  0xD800 ≤ n && n < 0xDC00

/-- Whether a unit is the second of a pair. -/
def isLowSurrogate (n : Nat) : Bool :=
  0xDC00 ≤ n && n < 0xE000

/-- The number of the character that a pair of units denotes. -/
def pairValue (high low : Nat) : Nat :=
  0x10000 + (high - 0xD800) * 0x400 + (low - 0xDC00)

/-- The character that is written in units at the start of a text, after `\u`. -/
def readUnits : List Char → Option (Char × List Char)
  | a :: b :: c :: d :: rest =>
      match hexUnit? a b c d with
      | none => none
      | some n =>
          if isLowSurrogate n then none
          else if isHighSurrogate n then
            match rest with
            | '\\' :: 'u' :: e :: f :: g :: h :: rest =>
                match hexUnit? e f g h with
                | none => none
                | some m =>
                    if isLowSurrogate m then some (Char.ofNat (pairValue n m), rest) else none
            | _ => none
          else some (Char.ofNat n, rest)
  | _ => none

/-- The character that is written at the start of a text, after a backslash. -/
def readEscape : List Char → Option (Char × List Char)
  | [] => none
  | 'u' :: cs => readUnits cs
  | c :: cs => (shortEscape? c).map fun e => (e, cs)

theorem readUnits_length_lt {cs rest : List Char} {c : Char} (h : readUnits cs = some (c, rest)) :
  rest.length < cs.length
  := by
  unfold readUnits at h
  split at h
  · split at h
    · cases h
    · split at h
      · cases h
      · split at h
        · split at h
          · split at h
            · cases h
            · split at h
              · injection h with h
                injection h with _ h
                subst h
                simp only [List.length_cons]
                omega
              · cases h
          · cases h
        · injection h with h
          injection h with _ h
          subst h
          simp only [List.length_cons]
          omega
  · cases h

theorem readEscape_length_lt {cs rest : List Char} {c : Char}
    (h : readEscape cs = some (c, rest)) :
  rest.length < cs.length
  := by
  unfold readEscape at h
  split at h
  · cases h
  · have := readUnits_length_lt h
    rw [List.length_cons]
    omega
  · obtain ⟨_, _, h⟩ := Option.map_eq_some_iff.mp h
    injection h with _ h
    subst h
    exact Nat.lt_succ_self _

/-- A string at the start of a text, after its first quote: its characters and the text after its
last quote. -/
def readChars (cs : List Char) : Option (List Char × List Char) :=
  match cs with
  | [] => none
  | c :: rest =>
      if c = '"' then some ([], rest)
      else if c = '\\' then
        match h : readEscape rest with
        | none => none
        | some (e, rest') =>
            have : rest'.length < rest.length := readEscape_length_lt h
            (readChars rest').map fun (s, after) => (e :: s, after)
      else if c.toNat < 0x20 then none
      else (readChars rest).map fun (s, after) => (c :: s, after)
termination_by cs.length
decreasing_by all_goals simp only [List.length_cons]; omega

/-- The text after a string at its start, after the first quote of the string; what its escapes
denote does not matter. -/
def skipChars : List Char → Option (List Char)
  | [] => none
  | '"' :: rest => some rest
  | '\\' :: 'u' :: a :: b :: c :: d :: rest =>
      if (hexUnit? a b c d).isSome then skipChars rest else none
  | '\\' :: c :: rest => if (shortEscape? c).isSome then skipChars rest else none
  | c :: rest => if c.toNat < 0x20 then none else skipChars rest

/-! ### Numbers -/

/-- The digits at the start of a text, of which there is at least one, and the text after them. -/
def readDigits (cs : List Char) : Option (List Char × List Char) :=
  let ds := cs.takeWhile Char.isDigit
  if ds.isEmpty then none else some (ds, cs.drop ds.length)

/-- The digits before the point of a number: a zero alone, or digits that do not start with one. -/
def readWhole (cs : List Char) : Option (List Char × List Char) :=
  match readDigits cs with
  | some (d :: ds, rest) => if d = '0' ∧ !ds.isEmpty then none else some (d :: ds, rest)
  | _ => none

/-- The digits after the point of a number, if there is a point. -/
def readFraction : List Char → Option (Option (List Char) × List Char)
  | '.' :: cs => (readDigits cs).map fun (ds, rest) => (some ds, rest)
  | cs => some (none, cs)

/-- The sign of an exponent, which is no part of the exponent's digits. -/
def readExponentSign : List Char → Bool × List Char
  | '+' :: cs => (false, cs)
  | '-' :: cs => (true, cs)
  | cs => (false, cs)

/-- The exponent of a number, if there is one. -/
def readExponent : List Char → Option (Option (Bool × List Char) × List Char)
  | c :: cs =>
      if c = 'e' ∨ c = 'E' then
        let (negative, cs) := readExponentSign cs
        (readDigits cs).map fun (ds, rest) => (some (negative, ds), rest)
      else some (none, c :: cs)
  | [] => some (none, [])

/-- The parts of the number at the start of a text. -/
def readNumberParts (cs : List Char) : Option (NumberParts × List Char) := do
  let (negative, cs) := if cs.head? = some '-' then (true, cs.drop 1) else (false, cs)
  let (whole, cs) ← readWhole cs
  let (fraction, cs) ← readFraction cs
  let (exponent, cs) ← readExponent cs
  return (⟨negative, whole, fraction, exponent⟩, cs)

/-- The number at the start of a text. -/
def readNumber (cs : List Char) : Option (Number × List Char) := do
  let (parts, rest) ← readNumberParts cs
  return (← parts.value?, rest)

/-! ### Values that nobody asks for -/

mutual

/-- The text after the value at its start. -/
def skipValue : (fuel : Nat) → List Char → Option (List Char)
  | 0, _ => none
  | fuel + 1, cs =>
      match skipSpace cs with
      | '"' :: rest => skipChars rest
      | '[' :: rest =>
          match skipSpace rest with
          | ']' :: rest => some rest
          | rest => skipItems fuel rest
      | '\x7b' :: rest =>
          match skipSpace rest with
          | '\x7d' :: rest => some rest
          | rest => skipMembers fuel rest
      | 'n' :: rest => dropStart? "ull".toList rest
      | 't' :: rest => dropStart? "rue".toList rest
      | 'f' :: rest => dropStart? "alse".toList rest
      | rest => (readNumberParts rest).map (·.2)

/-- The text after the items at its start and the bracket that closes them. -/
def skipItems : (fuel : Nat) → List Char → Option (List Char)
  | 0, _ => none
  | fuel + 1, cs =>
      match skipValue fuel cs with
      | none => none
      | some rest =>
          match skipSpace rest with
          | ']' :: rest => some rest
          | ',' :: rest => skipItems fuel rest
          | _ => none

/-- The text after the members at its start and the brace that closes them. -/
def skipMembers : (fuel : Nat) → List Char → Option (List Char)
  | 0, _ => none
  | fuel + 1, cs =>
      match skipSpace cs with
      | '"' :: rest =>
          match skipChars rest with
          | none => none
          | some rest =>
              match skipSpace rest with
              | ':' :: rest =>
                  match skipValue fuel rest with
                  | none => none
                  | some rest =>
                      match skipSpace rest with
                      | '\x7d' :: rest => some rest
                      | ',' :: rest => skipMembers fuel rest
                      | _ => none
              | _ => none
      | _ => none

end

/-- The text after the value at its start. Each call below reads a character or is followed by one
that does, so twice the length of the text is enough of them. -/
def skip (cs : List Char) : Option (List Char) :=
  skipValue (2 * cs.length + 2) cs

end PageModel.Json
