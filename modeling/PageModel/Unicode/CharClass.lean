import PageModel.Unicode.Binary
import PageModel.Unicode.Category

/-!
# Classes of characters

The classes that readers of names and patterns ask for: letters and digits of all scripts, the
characters of words, decimal digits, and the characters that are shown as they are in quoted text.
-/

namespace PageModel.Unicode

/-- Alphabetic characters and numbers of every kind. Within the ASCII range these are the letters
and digits, and no table is asked. -/
def isAlphanumeric (c : Char) : Bool :=
  if c.toNat < 128 then c.isAlphanum
  else
    alphabeticTable.contains c || categoryNd.contains c || categoryNl.contains c
      || categoryNo.contains c

/-- The characters of words: alphabetic characters, marks, decimal digits, connecting punctuation
and the two joining controls. -/
def isWordChar (c : Char) : Bool :=
  alphabeticTable.contains c || categoryMn.contains c || categoryMc.contains c
    || categoryMe.contains c || categoryNd.contains c || categoryPc.contains c
    || joinControlTable.contains c

/-- Decimal digits of every script. -/
def isDecimalDigit (c : Char) : Bool :=
  categoryNd.contains c

/-- Characters that extend the one before them. -/
def isGraphemeExtender (c : Char) : Bool :=
  graphemeExtendTable.contains c

/-- Characters that have a shape of their own: neither controls, format characters, private or
unassigned ones, nor separators, the space apart. -/
def isPrintable (c : Char) : Bool :=
  c = ' ' || !(categoryCc.contains c || categoryCf.contains c || categoryCo.contains c
    || categoryCn.contains c || categoryZl.contains c || categoryZp.contains c
    || categoryZs.contains c)

end PageModel.Unicode
