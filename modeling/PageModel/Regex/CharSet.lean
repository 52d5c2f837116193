import PageModel.Unicode.Blank
import PageModel.Unicode.CharClass
import PageModel.Unicode.Folding

/-!
# Sets of characters in patterns

The sets that one place of a pattern can match, written as they are built: ranges, tables of a
standard, and the results of joining, intersecting, complementing and folding sets.
-/

namespace PageModel.Regex

/-- A set of characters. -/
inductive CharSet where
  | none
  | range (first last : Char)
  | table (table : Unicode.RangeTable)
  | blank
  | digit
  | word
  | union (a b : CharSet)
  | inter (a b : CharSet)
  | compl (a : CharSet)
  | folded (a : CharSet)
deriving Repr, DecidableEq

namespace CharSet

/-- Membership. A folded set holds the characters that are the same as one of its own up to
case. -/
def contains : CharSet → Char → Bool
  | none, _ => false
  | range first last, c => first ≤ c && c ≤ last
  | table t, c => t.contains c
  | blank, c => Unicode.isBlank c
  | digit, c => Unicode.isDecimalDigit c
  | word, c => Unicode.isWordChar c
  | union a b, c => a.contains c || b.contains c
  | inter a b, c => a.contains c && b.contains c
  | compl a, c => !a.contains c
  | folded a, c => a.contains c || (Unicode.orbit c).any a.contains

/-- The set of one character. -/
def single (c : Char) : CharSet :=
  .range c c

/-- The set of all characters. -/
def all : CharSet :=
  .compl .none

/-- The union of sets. -/
def unions : List CharSet → CharSet
  | [] => .none
  | [a] => a
  | a :: as => .union a (unions as)

/-- The characters of one set that are not in another. -/
def difference (a b : CharSet) : CharSet :=
  .inter a (.compl b)

/-- The characters that are in one of two sets but not in both. -/
def symmetricDifference (a b : CharSet) : CharSet :=
  .union (difference a b) (difference b a)

/-- A set or its complement. -/
def complIf (negated : Bool) (a : CharSet) : CharSet :=
  if negated then .compl a else a

end CharSet

/-! ### Membership in sets that are built of others -/

theorem CharSet.contains_single (c d : Char) :
  (CharSet.single c).contains d = decide (d = c)
  := by
  simp only [single, contains]
  by_cases h : d = c
  · subst h
    simp
  · have hn : ¬ (c ≤ d ∧ d ≤ c) := fun ⟨h1, h2⟩ => h (Char.le_antisymm h2 h1)
    simp only [h, decide_false, Bool.and_eq_false_imp, decide_eq_true_eq, decide_eq_false_iff_not]
    exact fun h1 h2 => hn ⟨h1, h2⟩

theorem CharSet.contains_all (c : Char) :
  CharSet.all.contains c = true
  := rfl

end PageModel.Regex
