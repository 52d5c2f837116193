import PageModel.Regex.Parse
import PageModel.Regex.Search

/-!
# Patterns

A pattern is a text with the expression that it denotes.
-/

namespace PageModel.Regex

/-- A pattern with its expression. -/
structure Pattern where
  source : String
  expr : Expr
deriving Repr, DecidableEq

namespace Pattern

/-- The pattern of a text, if it is one. -/
def compile? (flags : Flags) (source : String) : Option Pattern :=
  (Expr.parse flags source.toList).map fun e => ⟨source, e⟩

/-- Whether a pattern has a match in a text. -/
def isMatch (p : Pattern) (text : String) : Bool :=
  Regex.isMatch p.expr text

/-- The text of a group of the first match, if there is a match and the group takes part in it. -/
def firstGroup (p : Pattern) (group : Nat) (text : String) : Option String :=
  (search p.expr 0 none text.toList).bind fun slots => groupText text.toList slots group

/-- The texts of a group of all matches that it takes part in. -/
def allGroups (p : Pattern) (group : Nat) (text : String) : List String :=
  (searchAll p.expr text.toList).filterMap fun slots => groupText text.toList slots group

end Pattern

end PageModel.Regex
