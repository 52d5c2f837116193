/-!
# Location paths

A location path names elements of a document step by step, and ends in what is to be written of
each element that it reaches.
-/

namespace PageModel.XPath

/-- Where a step looks from an element: among its children, or anywhere below it. -/
inductive Axis where
  | child
  | descendant
deriving Repr, DecidableEq

/-- What a step asks of an element's name. -/
inductive NodeTest where
  | any
  | tag (name : String)
deriving Repr, DecidableEq

/-- What a predicate asks of an attribute. -/
inductive AttrTest where
  | present
  | equals (value : String)
  | differs (value : String)
  | contains (value : String)
  | startsWith (value : String)
deriving Repr, DecidableEq

/-- A predicate of a step: the place among the siblings that are left, counted from one, the
last place, or a test of an attribute. -/
inductive Predicate where
  | position (n : Nat)
  | last
  | attr (name : String) (test : AttrTest)
deriving Repr, DecidableEq

/-- A step of a path. -/
structure Step where
  axis : Axis
  test : NodeTest
  predicates : List Predicate
deriving Repr, DecidableEq

/-- What is written of an element. -/
inductive Output where
  | outerMarkup
  | innerMarkup
  | ownText
  | allText
  | tidyText
  | attr (name : String)
deriving Repr, DecidableEq

/-- A location path: its steps, what is written of the elements that it reaches, and the axis
that stands before the output. -/
structure Path where
  steps : List Step
  output : Output
  outputAxis : Axis
deriving Repr, DecidableEq

/-- Whether a predicate is about a place among siblings. -/
def Predicate.isPositional : Predicate → Bool
  | .position _ => true
  | .last => true
  | .attr _ _ => false

end PageModel.XPath
