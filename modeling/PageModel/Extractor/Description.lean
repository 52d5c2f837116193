import PageModel.Extractor
import PageModel.Text.Quoted

/-!
# Descriptions

The text in which a compiled schema is shown to its author: the names of the parts with their
values, texts being quoted.
-/

namespace PageModel

open Text (quoted)

/-- The description of a value that may be missing. -/
def describeOption : Option String → String
  | none => "None"
  | some s => "Some(" ++ s ++ ")"

/-- The description of a truth value. -/
def describeBool (b : Bool) : String :=
  if b then "true" else "false"

/-- The description of a list, given those of its items. -/
def describeList (items : List String) : String :=
  "[" ++ String.intercalate ", " items ++ "]"

/-- The description of a value with parts, given their names and their descriptions. -/
def describeParts (name : String) (parts : List (String × String)) : String :=
  name ++ " \x7b " ++ String.intercalate ", " (parts.map fun p => p.1 ++ ": " ++ p.2) ++ " \x7d"

/-- The description of a set of rules for URLs. -/
def UrlRuleSet.describe (s : UrlRuleSet) : String :=
  describeParts "UrlRuleSet"
    [("patterns", describeList (s.patterns.map fun p => quoted p.source)),
      ("source_region", describeOption (s.region.map fun r => quoted r.expression)),
      ("configured", describeBool s.configured)]

/-- The description of a rule of a field. -/
def FieldRule.describe {ρ : Type} (r : FieldRule ρ) : String :=
  describeParts "FieldRule"
    [("name", quoted r.name),
      ("selector", quoted r.selector.expression),
      ("source", r.source.name),
      ("multi", describeBool r.multi),
      ("required", describeBool r.required),
      ("writer", describeBool r.hasWriter)]

/-- The description of an extractor, given the name of the type of its records. -/
def Extractor.describe {ρ : Type} (x : Extractor ρ) (recordType : String) : String :=
  describeParts "PageModelExtractor"
    [("name", quoted x.name),
      ("record_type", quoted recordType),
      ("target", x.target.describe),
      ("help", x.help.describe),
      ("rules", describeList (x.rules.map FieldRule.describe)),
      ("after_extract", describeBool x.afterExtract.isSome)]

end PageModel
