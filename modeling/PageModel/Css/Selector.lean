import PageModel.Html.Node

/-!
# Selectors

A selector is a chain of compounds joined by combinators; a compound is a list of conditions on
one element. Conditions may hold selectors.
-/

namespace PageModel.Css

/-- How the element of a compound stands to that of the compound before it. -/
inductive Combinator where
  | descendant
  | child
  | nextSibling
  | laterSibling
deriving Repr, DecidableEq

/-- A comparison of an attribute's value. -/
inductive AttrMatch where
  | present
  | equals (value : String)
  | word (value : String)
  | dash (value : String)
  | start (value : String)
  | ending (value : String)
  | part (value : String)
deriving Repr, DecidableEq

/-- How the case of letters counts in a comparison: always, never, or never for an element of the
HTML vocabulary. -/
inductive CaseRule where
  | exact
  | ignored
  | ignoredInHtml
deriving Repr, DecidableEq

/-- Which siblings are counted, and from which end. -/
structure NthKind where
  ofType : Bool
  fromEnd : Bool
deriving Repr, DecidableEq

mutual

/-- A condition on an element. -/
inductive Condition where
  | tag (name : String)
  | noVocabulary
  | id (name : String)
  | className (name : String)
  | attr (anyScope : Bool) (name : String) (test : AttrMatch) (rule : CaseRule)
  | nth (kind : NthKind) (step offset : Int)
  | root
  | empty
  | anchor
  | any (selectors : List Selector)
  | none (selectors : List Selector)
  | has (selectors : List Selector)

/-- A selector, by its last compound and what stands before it. -/
inductive Selector where
  | compound (conditions : List Condition)
  | combined (conditions : List Condition) (combinator : Combinator) (before : Selector)

end

deriving instance Inhabited for Condition
deriving instance Inhabited for Selector

end PageModel.Css
