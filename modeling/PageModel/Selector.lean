import PageModel.Css.Match
import PageModel.Regex.Pattern
import PageModel.Selector.Fault
import PageModel.Selector.Kind
import PageModel.XPath.Evaluate

/-!
# Selectors

A selector is an expression with the query that it denotes. It selects texts from a text: from
the markup of a document, or from any text if it is a pattern. A pattern selects what its first
group captures, or the whole match if it has no group.
-/

namespace PageModel

/-- A query: a location path, a list of CSS selectors, or a pattern. -/
inductive Query where
  | path (p : XPath.Path)
  | css (selectors : List Css.Selector)
  | pattern (p : Regex.Pattern)

/-- An expression with its query. -/
structure Selector where
  expression : String
  query : Query

namespace Regex

/-- The flags of patterns that select: letters match in either case, and a dot matches every
character. -/
def Flags.forSelecting : Flags :=
  { Flags.default with caseless := true, dotAll := true }

/-- The group that a pattern selects: the first, or the whole match if there is none. -/
def Pattern.selectedGroup (p : Pattern) : Nat :=
  if p.expr.groupCount > 1 then 1 else 0

end Regex

namespace Selector

/-- The selector of a pattern. -/
def ofPattern (expression : String) : Except SelectorFault Selector :=
  if Unicode.isBlankText expression then .error .blankPattern
  else
    match Regex.Pattern.compile? .forSelecting expression with
    | some p => .ok ⟨expression, .pattern p⟩
    | none => .error .malformedPattern

/-- The selector of a list of CSS selectors. -/
def ofCss (expression : String) : Except SelectorFault Selector :=
  match Css.parseSelectors expression with
  | some selectors => .ok ⟨expression, .css selectors⟩
  | none => .error .malformedCss

/-- The selector of a location path. -/
def ofPath (expression : String) : Except SelectorFault Selector :=
  match XPath.Path.parse expression with
  | .ok p => .ok ⟨expression, .path p⟩
  | .error fault => .error (.path fault)

/-- The selector of an expression in a query language. -/
def build (kind : SelectorKind) (expression : String) : Except SelectorFault Selector :=
  match kind with
  | .css => ofCss expression
  | .regex => ofPattern expression
  | .xpath => ofPath expression
  | .xpath2 => ofPath expression

/-- The first text that a selector selects. -/
def select (s : Selector) (text : String) : Option String :=
  match s.query with
  | .path p => p.select text
  | .css selectors => Css.select selectors text
  | .pattern p => p.firstGroup p.selectedGroup text

/-- The texts that a selector selects, in order. -/
def selectAll (s : Selector) (text : String) : List String :=
  match s.query with
  | .path p => p.selectAll text
  | .css selectors => Css.selectAll selectors text
  | .pattern p => p.allGroups p.selectedGroup text

end Selector

end PageModel
