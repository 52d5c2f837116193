import PageModel.Regex.CharSet

/-!
# Regular expressions

A regular expression matches texts in their surroundings: what stands before and after decides
where anchors hold. Alternatives and repetitions prefer their options in an order, which does not
bear on what is matched but on which match is found.
-/

namespace PageModel.Regex

/-- Conditions on the place between two characters. -/
inductive Anchor where
  | start
  | ending
  | lineStart
  | lineEnd
  | crlfLineStart
  | crlfLineEnd
  | wordBoundary (ascii : Bool)
  | noWordBoundary (ascii : Bool)
  | wordStart (ascii : Bool)
  | wordEnd (ascii : Bool)
  | wordStartHalf (ascii : Bool)
  | wordEndHalf (ascii : Bool)
deriving Repr, DecidableEq

/-- Whether a character, if there is one, belongs to words. -/
def isWordAt (ascii : Bool) (c : Option Char) : Bool :=
  c.any fun c => if ascii then c.isAlphanum || c = '_' else Unicode.isWordChar c

/-- Whether an anchor holds between two characters, each missing at an end of the text. -/
def Anchor.holds (a : Anchor) (before after : Option Char) : Bool :=
  match a with
  | .start => before.isNone
  | .ending => after.isNone
  | .lineStart => before.all (· = '\n')
  | .lineEnd => after.all (· = '\n')
  | .crlfLineStart => before.all fun c => c = '\n' || (c = '\r' && after != some '\n')
  | .crlfLineEnd => after.all fun c => c = '\r' || (c = '\n' && before != some '\r')
  | .wordBoundary ascii => isWordAt ascii before != isWordAt ascii after
  | .noWordBoundary ascii => isWordAt ascii before == isWordAt ascii after
  | .wordStart ascii => !isWordAt ascii before && isWordAt ascii after
  | .wordEnd ascii => isWordAt ascii before && !isWordAt ascii after
  | .wordStartHalf ascii => !isWordAt ascii before
  | .wordEndHalf ascii => !isWordAt ascii after

/-- Regular expressions. A repetition is of at least `min` and at most `max` rounds. -/
inductive Expr where
  | empty
  | set (s : CharSet)
  | anchor (a : Anchor)
  | group (index : Nat) (e : Expr)
  | cat (a b : Expr)
  | alt (a b : Expr)
  | repeated (min : Nat) (max : Option Nat) (greedy : Bool) (e : Expr)
deriving Repr, DecidableEq

namespace Expr

/-- Expressions one after the other. -/
def cats : List Expr → Expr
  | [] => .empty
  | [e] => e
  | e :: es => .cat e (cats es)

/-- Whether an expression matches nothing but the empty text. -/
def matchesOnlyEmpty : Expr → Bool
  | .empty => true
  | .set _ => false
  | .anchor _ => true
  | .group _ e => e.matchesOnlyEmpty
  | .cat a b => a.matchesOnlyEmpty && b.matchesOnlyEmpty
  | .alt a b => a.matchesOnlyEmpty && b.matchesOnlyEmpty
  | .repeated _ max _ e => e.matchesOnlyEmpty || max = some 0

/-- Whether an expression may match the empty text. -/
def mayBeEmpty : Expr → Bool
  | .empty => true
  | .set _ => false
  | .anchor _ => true
  | .group _ e => e.mayBeEmpty
  | .cat a b => a.mayBeEmpty && b.mayBeEmpty
  | .alt a b => a.mayBeEmpty || b.mayBeEmpty
  | .repeated min _ _ e => min = 0 || e.mayBeEmpty

/-- A repetition. One round is the expression itself, no round is empty, and what matches only
the empty text is not repeated. -/
def rounds (min : Nat) (max : Option Nat) (greedy : Bool) (e : Expr) : Expr :=
  let (min, max) :=
    if e.matchesOnlyEmpty then (Nat.min min 1, some ((max.map (Nat.min · 1)).getD 1))
    else (min, max)
  if min = 0 ∧ max = some 0 then .empty
  else if min = 1 ∧ max = some 1 then e
  else .repeated min max greedy e

/-- One more than the greatest number of a group, the whole match being group zero. -/
def groupCount : Expr → Nat
  | .empty => 1
  | .set _ => 1
  | .anchor _ => 1
  | .group index e => Nat.max (index + 1) e.groupCount
  | .cat a b => Nat.max a.groupCount b.groupCount
  | .alt a b => Nat.max a.groupCount b.groupCount
  | .repeated _ _ _ e => e.groupCount

end Expr

/-! ### What an expression matches -/

/-- The last character of a text, the text being given in reverse. -/
abbrev lastBefore (before : List Char) : Option Char :=
  before.head?

/-- `Matches e before w after` says that the expression `e` matches the text `w` between the texts
`before`, which is given in reverse, and `after`. -/
inductive Matches : Expr → (before w after : List Char) → Prop where
  | empty (before after : List Char) : Matches .empty before [] after
  | set {s : CharSet} {c : Char} (before after : List Char) (h : s.contains c = true) :
      Matches (.set s) before [c] after
  | anchor {a : Anchor} {before after : List Char}
      (h : a.holds (lastBefore before) after.head? = true) :
      Matches (.anchor a) before [] after
  | group {i : Nat} {e : Expr} {before w after : List Char} (h : Matches e before w after) :
      Matches (.group i e) before w after
  | cat {a b : Expr} {before u v after : List Char}
      (ha : Matches a before u (v ++ after)) (hb : Matches b (u.reverse ++ before) v after) :
      Matches (.cat a b) before (u ++ v) after
  | altLeft {a b : Expr} {before w after : List Char} (h : Matches a before w after) :
      Matches (.alt a b) before w after
  | altRight {a b : Expr} {before w after : List Char} (h : Matches b before w after) :
      Matches (.alt a b) before w after
  | stop {max : Option Nat} {greedy : Bool} {e : Expr} (before after : List Char) :
      Matches (.repeated 0 max greedy e) before [] after
  | round {min : Nat} {max : Option Nat} {greedy : Bool} {e : Expr}
      {before u v after : List Char} (hmax : max ≠ some 0)
      (he : Matches e before u (v ++ after))
      (hrest : Matches (.repeated (min - 1) (max.map (· - 1)) greedy e) (u.reverse ++ before) v
        after) :
      Matches (.repeated min max greedy e) before (u ++ v) after

end PageModel.Regex
