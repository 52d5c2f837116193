import PageModel.Error
import PageModel.Selector

/-!
# URL rules

A rule names URLs by globs, and may name the part of a page in which links count. A glob is a
pattern in which a dot stands for itself and an asterisk for any run of characters other than
quotes and the number sign; it has to match a whole URL. A rule is compiled to a set of patterns, of
which a URL has to match one.
-/

namespace PageModel

/-! ### Globs -/

/-- A text with another one in the place of each occurrence of a character. -/
def replaceChar (c : Char) (other cs : List Char) : List Char :=
  cs.flatMap fun d => if d = c then other else [d]

/-- What stands for a dot in a pattern. -/
def dotSource : List Char :=
  ['\\', '.']

/-- What stands for an asterisk in a pattern: any run of characters without quotes and number
signs. -/
def runSource : List Char :=
  ['[', '^', '"', '\'', '#', ']', '*']

/-- The pattern that a glob stands for, as a group: first the dots of the glob are replaced, then the
asterisks. -/
def globSource (glob : String) : String :=
  String.ofList (['('] ++ replaceChar '*' runSource (replaceChar '.' dotSource glob.toList) ++ [')'])

/-- A pattern that has to match from the first character to the last. -/
def anchoredSource (source : String) : String :=
  "^(?:" ++ source ++ ")$"

/-- The pattern of a glob. -/
def compileGlob (glob : String) : Except Error Regex.Pattern :=
  match Regex.Pattern.compile? .default (anchoredSource (globSource glob)) with
  | some p => .ok p
  | none => .error (.selector glob .malformedPattern)

/-! ### Rules -/

/-- A rule as it is declared: its globs, and the path to the part of a page in which links count. -/
structure UrlRule where
  patterns : List String
  sourceRegion : Option String
deriving Repr, DecidableEq

/-- The patterns that a URL may match, the selector of the part of a page in which links count,
and whether a rule was declared. -/
structure UrlRuleSet where
  patterns : List Regex.Pattern
  region : Option Selector
  configured : Bool

/-- The globs of a rule that are not blank. -/
def UrlRule.globs (r : UrlRule) : List String :=
  r.patterns.filter fun glob => !Unicode.isBlankText glob

/-- The path of a rule, if it is not blank. -/
def UrlRule.regionPath? (r : UrlRule) : Option String :=
  match r.sourceRegion with
  | none => none
  | some path => if Unicode.isBlankText path then none else some (Unicode.trimText path)

/-- The selector of a region. -/
def compileRegion (path : Option String) : Except Error (Option Selector) :=
  match path with
  | none => .ok none
  | some path =>
      match Selector.ofPath path with
      | .ok s => .ok (some s)
      | .error fault => .error (.selector path fault)

/-- The patterns of globs, or the error of the first that has none. -/
def compileGlobs : List String → Except Error (List Regex.Pattern)
  | [] => .ok []
  | glob :: globs =>
      match compileGlob glob with
      | .error e => .error e
      | .ok p => (compileGlobs globs).map (p :: ·)

namespace UrlRuleSet

/-- The set of a declared rule. -/
def compile (r : UrlRule) : Except Error UrlRuleSet :=
  match compileGlobs r.globs with
  | .error e => .error e
  | .ok patterns => (compileRegion r.regionPath?).map fun region => ⟨patterns, region, true⟩

/-- The pattern of every URL in which no line ends. -/
def anyUrl : Except Error Regex.Pattern :=
  match Regex.Pattern.compile? .default (anchoredSource ".*") with
  | some p => .ok p
  | none => .error (.selector ".*" .malformedPattern)

/-- The set of pages that are extracted. Without a rule it has the pattern of every URL. -/
def target : Option UrlRule → Except Error UrlRuleSet
  | some r => compile r
  | none => anyUrl.map fun p => ⟨[p], none, false⟩

/-- The set of pages that are visited for their links. Without a rule it is empty. -/
def help : Option UrlRule → Except Error UrlRuleSet
  | some r => compile r
  | none => .ok ⟨[], none, false⟩

/-- Whether a URL matches one of the patterns. -/
def isMatch (s : UrlRuleSet) (url : String) : Bool :=
  s.patterns.any fun p => p.isMatch url

end UrlRuleSet

end PageModel
