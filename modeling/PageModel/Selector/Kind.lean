import PageModel.Unicode.Blank
import PageModel.Unicode.Lowercase

/-!
# Kinds of selectors

The query languages in which a selector can be written, and their names.
-/

namespace PageModel

/-- The query languages. The two for location paths are read alike. -/
inductive SelectorKind where
  | css
  | regex
  | xpath
  | xpath2
deriving Repr, DecidableEq, Inhabited

namespace SelectorKind

/-- The name of a kind. -/
def name : SelectorKind → String
  | .css => "css"
  | .regex => "regex"
  | .xpath => "xpath"
  | .xpath2 => "xpath2"

/-- All kinds. -/
def all : List SelectorKind :=
  [.css, .regex, .xpath, .xpath2]

/-- The kind of a name, as it is written. -/
def ofExactName? (s : String) : Option SelectorKind :=
  all.find? fun k => k.name == s

/-- The kind of a name, whatever its case and the white space around it. -/
def ofName? (s : String) : Option SelectorKind :=
  ofExactName? (Unicode.lowercaseText (Unicode.trimText s))

/-- The kind of a name, where a name of no kind stands for the second one for location paths. -/
def ofNameLenient (s : String) : SelectorKind :=
  (ofName? s).getD .xpath2

end SelectorKind

end PageModel
