import PageModel.XPath.Parse

/-!
# Faults of selectors

What is wrong with an expression that denotes no query.
-/

namespace PageModel

/-- What is wrong with an expression. The last case is for faults of which only the wording is
known. -/
inductive SelectorFault where
  | path (fault : XPath.Fault)
  | blankPattern
  | malformedPattern
  | malformedCss
  | stated (text : String)
deriving Repr, DecidableEq

/-- The wording of a fault of an expression. -/
def SelectorFault.message : SelectorFault → String
  | .path fault => fault.message
  | .blankPattern => "regex must not be empty"
  | .malformedPattern => "malformed regex"
  | .malformedCss => "malformed CSS selector"
  | .stated text => text

end PageModel
