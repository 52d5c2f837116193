import PageModel.Html.NamedReference

/-!
# Character references

Text and attribute values may write a character as a reference: by name, `&amp;`, or by
number, `&#38;` and `&#x26;`. `decode` replaces the references of a text. A name that is
written without its semicolon is left alone in an attribute value when a letter, a digit or an
equals sign follows, so that the addresses of links keep their queries.
-/

namespace PageModel.Html

/-- The characters that the numbers from `0x80` to `0x9F` stand for. -/
def legacyControls : List Char :=
  ['\u20AC', '\u0081', '\u201A', '\u0192', '\u201E', '\u2026', '\u2020', '\u2021',
   '\u02C6', '\u2030', '\u0160', '\u2039', '\u0152', '\u008D', '\u017D', '\u008F',
   '\u0090', '\u2018', '\u2019', '\u201C', '\u201D', '\u2022', '\u2013', '\u2014',
   '\u02DC', '\u2122', '\u0161', '\u203A', '\u0153', '\u009D', '\u017E', '\u0178']

/-- The character that a number stands for: the replacement character for a number that is no
character, and a letter or sign for the numbers of old control characters. -/
def numberedCharacter (n : Nat) : Char :=
  if n = 0 ∨ 0x10FFFF < n ∨ (0xD800 ≤ n ∧ n ≤ 0xDFFF) then '\uFFFD'
  else (if 0x80 ≤ n then legacyControls[n - 0x80]? else none).getD (Char.ofNat n)

/-- The number of characters of `digits` with a semicolon, if one follows. -/
def lengthWithSemicolon (digits after : List Char) : Nat :=
  digits.length + if after.head? = some ';' then 1 else 0

/-- What stands for the reference whose ampersand `cs` follows: the characters, and how many
characters of `cs` belong to the reference. A lone ampersand stands for itself. -/
def reference (inAttribute : Bool) (cs : List Char) : List Char × Nat :=
  match cs with
  | '#' :: x :: r =>
      if x = 'x' ∨ x = 'X' then
        let digits := r.takeWhile isHexDigit
        if digits.isEmpty then (['&'], 0)
        else
          ([numberedCharacter (valueIn 16 digits)],
            2 + lengthWithSemicolon digits (r.drop digits.length))
      else
        let digits := (x :: r).takeWhile Char.isDigit
        if digits.isEmpty then (['&'], 0)
        else
          ([numberedCharacter (decimalValue digits)],
            1 + lengthWithSemicolon digits ((x :: r).drop digits.length))
  | c :: _ =>
      if c.isAlphanum then
        match longestReference? cs longestReferenceName with
        | none => (['&'], 0)
        | some (chars, n, closed) =>
            let next := (cs.drop n).head?
            if inAttribute && !closed && next.any (fun d => d = '=' || d.isAlphanum) then
              (['&'], 0)
            else
              (chars, n)
      else
        (['&'], 0)
  | [] => (['&'], 0)

/-- A text with its references replaced; `acc` is the part done, reversed. -/
def decodeOnto (inAttribute : Bool) (acc : List Char) : List Char → List Char
  | [] => acc.reverse
  | c :: cs =>
      if c = '&' then
        let (chars, n) := reference inAttribute cs
        decodeOnto inAttribute (chars.reverse ++ acc) (cs.drop n)
      else
        decodeOnto inAttribute (c :: acc) cs
termination_by cs => cs.length
decreasing_by
  · simp only [List.length_drop, List.length_cons]
    omega
  · simp

/-- A text with its references replaced. -/
def decode (inAttribute : Bool) (cs : List Char) : List Char :=
  decodeOnto inAttribute [] cs

end PageModel.Html
