import PageModel.Unicode.CharClass

/-!
# Quoted text

A text between double quotes, in which the quote and the backslash stand after a backslash, a few
control characters have letters, and every character that has no shape of its own, or would join
the one before it, is given by its number.
-/

namespace PageModel.Text

/-- The digits of a number in the base 16. -/
def hexDigits (n : Nat) : List Char :=
  Nat.toDigits 16 n

/-- A character of quoted text. -/
def quotedChar (c : Char) : List Char :=
  if c = '\x00' then ['\\', '0']
  else if c = '\t' then ['\\', 't']
  else if c = '\r' then ['\\', 'r']
  else if c = '\n' then ['\\', 'n']
  else if c = '\\' then ['\\', '\\']
  else if c = '"' then ['\\', '"']
  else if 0x20 ≤ c.toNat ∧ c.toNat < 0x7F then [c]
  else if Unicode.isGraphemeExtender c || !Unicode.isPrintable c then
    ['\\', 'u', '\x7b'] ++ hexDigits c.toNat ++ ['\x7d']
  else [c]

/-- A text between quotes. -/
def quoted (s : String) : String :=
  String.ofList (['"'] ++ s.toList.flatMap quotedChar ++ ['"'])

end PageModel.Text
