import PageModel.Css.Component
import PageModel.Css.Selector

/-!
# Reading selectors

A list of selectors is read from components cut at commas. Which conditions exist is fixed; a
condition that does not exist, a dangling combinator or an empty selector makes the whole list
malformed, but for the lists in `:is()` and `:where()`, which drop what they cannot read.
-/

namespace PageModel.Css

/-- A reader of components: what it has read, and the components after it. -/
abbrev Reader (α : Type) := List Component → Option (α × List Component)

/-- The lower case of a string, as far as its letters are ASCII. -/
def lowerName (s : String) : String :=
  String.ofList (s.toList.map Html.asciiLower)

/-! ### Names with vocabularies -/

/-- The vocabulary that a name is written with: none, none at all, or any. -/
inductive NameScope where
  | unstated
  | absent
  | any

/-- A name, or `none` for the asterisk, with its vocabulary. -/
structure ScopedName where
  scope : NameScope
  name : Option String

/-- What a reader of a name finds: a name, no name, or a malformed one. -/
inductive NameReading where
  | found (name : ScopedName) (rest : List Component)
  | missing
  | malformed

/-- A name after the bar that follows its vocabulary. -/
def readAfterBar (inAttr : Bool) (scope : NameScope) : List Component → NameReading
  | .token (.ident name) :: cs => .found ⟨scope, some name⟩ cs
  | .token (.delim '*') :: cs => if inAttr then .malformed else .found ⟨scope, none⟩ cs
  | _ => .malformed

/-- A name at the start of components. -/
def readScopedName (inAttr : Bool) : List Component → NameReading
  | .token (.ident _) :: .token (.delim '|') :: _ => .malformed
  | .token (.ident name) :: cs => .found ⟨.unstated, some name⟩ cs
  | .token (.delim '*') :: .token (.delim '|') :: cs => readAfterBar inAttr .any cs
  | .token (.delim '*') :: cs => if inAttr then .malformed else .found ⟨.unstated, none⟩ cs
  | .token (.delim '|') :: cs => readAfterBar inAttr .absent cs
  | _ => .missing

/-! ### Attributes -/

/-- The attributes of HTML elements whose values are compared without regard to case. -/
def caselessAttrs : List String :=
  ["accept", "accept-charset", "align", "alink", "axis", "bgcolor", "charset", "checked", "clear",
   "codetype", "color", "compact", "declare", "defer", "dir", "direction", "disabled", "enctype",
   "face", "frame", "hreflang", "http-equiv", "lang", "language", "link", "media", "method",
   "multiple", "nohref", "noresize", "noshade", "nowrap", "readonly", "rel", "rev", "rules",
   "scope", "scrolling", "selected", "shape", "target", "text", "type", "valign", "valuetype",
   "vlink"]

/-- The comparison that a sign makes. -/
def MatchSign.test : MatchSign → String → AttrMatch
  | .word => .word
  | .dash => .dash
  | .start => .start
  | .ending => .ending
  | .part => .part

/-- The comparison that a component stands for. -/
def comparison? : Component → Option (String → AttrMatch)
  | .token (.delim '=') => some .equals
  | .token (.matchSign sign) => some sign.test
  | _ => none

/-- The value that a component stands for. -/
def value? : Component → Option String
  | .token (.ident name) => some name
  | .token (.string text) => some text
  | _ => none

/-- The rule for the case of letters that is stated at the end of a condition, or that the
attribute has. -/
def caseRule? (byName : CaseRule) (cs : List Component) : Option CaseRule :=
  match skipBlanks cs with
  | [] => some byName
  | .token (.ident flag) :: rest =>
      if !isExhausted rest then none
      else if lowerName flag = "i" then some .ignored
      else if lowerName flag = "s" then some .exact
      else none
  | _ => none

/-- The condition in square brackets. -/
def readAttr (items : List Component) : Option Condition :=
  match readScopedName true (skipBlanks items) with
  | .found ⟨scope, some name⟩ cs =>
      let anyScope := match scope with | .any => true | _ => false
      match skipBlanks cs with
      | [] => some (.attr anyScope name .present .exact)
      | sign :: cs =>
          match comparison? sign, skipBlanks cs with
          | some test, v :: cs =>
              match value? v with
              | none => none
              | some value =>
                  let byName :=
                    if !anyScope && caselessAttrs.contains (lowerName name) then .ignoredInHtml
                    else .exact
                  (caseRule? byName cs).map fun rule => .attr anyScope name (test value) rule
          | _, _ => none
  | _ => none

/-! ### Counting siblings -/

/-- The number in a name such as `n-3`. -/
def nDashDigits? (name : String) : Option Int :=
  match name.toList with
  | n :: '-' :: d :: ds =>
      if (n = 'n' ∨ n = 'N') ∧ (d :: ds).all Char.isDigit then
        some (clampNumber (-decimalValue (d :: ds)))
      else none
  | _ => none

/-- A whole number without a sign, times `sign`, at the start of components. -/
def readSignless (step sign : Int) (cs : List Component) : Option ((Int × Int) × List Component) :=
  match skipBlanks cs with
  | .token (.number (some b) false) :: rest => some ((step, sign * b), rest)
  | _ => none

/-- The offset after the step, if there is one. -/
def readOffset (step : Int) (cs : List Component) : Option ((Int × Int) × List Component) :=
  match skipBlanks cs with
  | .token (.delim '+') :: rest => readSignless step 1 rest
  | .token (.delim '-') :: rest => readSignless step (-1) rest
  | .token (.number (some b) true) :: rest => some ((step, b), rest)
  | _ => some ((step, 0), cs)

/-- What follows a step whose unit or name is given. -/
def readStepUnit (step : Int) (unit : String) (cs : List Component) :
    Option ((Int × Int) × List Component) :=
  let u := lowerName unit
  if u = "n" then readOffset step cs
  else if u = "n-" then readSignless step (-1) cs
  else (nDashDigits? unit).map fun b => ((step, b), cs)

/-- The step and the offset of a count: `odd`, `even`, `3`, `2n`, `2n+1`, `-n+3` and the like. -/
def readNth (cs : List Component) : Option ((Int × Int) × List Component) :=
  match skipBlanks cs with
  | .token (.number (some b) _) :: rest => some ((0, b), rest)
  | .token (.dimension (some a) unit) :: rest => readStepUnit a unit rest
  | .token (.ident name) :: rest =>
      let l := lowerName name
      if l = "even" then some ((2, 0), rest)
      else if l = "odd" then some ((2, 1), rest)
      else
        match name.toList with
        | '-' :: stepName => readStepUnit (-1) (String.ofList stepName) rest
        | _ => readStepUnit 1 name rest
  | .token (.delim '+') :: .token (.ident name) :: rest => readStepUnit 1 name rest
  | _ => none

/-- The kind of count that a name stands for, with an argument. -/
def nthKind? : String → Option NthKind
  | "nth-child" => some ⟨false, false⟩
  | "nth-last-child" => some ⟨false, true⟩
  | "nth-of-type" => some ⟨true, false⟩
  | "nth-last-of-type" => some ⟨true, true⟩
  | _ => none

/-- The conditions that a name without an argument stands for. -/
def plainConditions? : String → Option (List Condition)
  | "first-child" => some [.nth ⟨false, false⟩ 0 1]
  | "last-child" => some [.nth ⟨false, true⟩ 0 1]
  | "only-child" => some [.nth ⟨false, false⟩ 0 1, .nth ⟨false, true⟩ 0 1]
  | "first-of-type" => some [.nth ⟨true, false⟩ 0 1]
  | "last-of-type" => some [.nth ⟨true, true⟩ 0 1]
  | "only-of-type" => some [.nth ⟨true, false⟩ 0 1, .nth ⟨true, true⟩ 0 1]
  | "root" => some [.root]
  | "scope" => some [.root]
  | "empty" => some [.empty]
  | _ => none

/-! ### Combinators -/

/-- A combinator at the start of components. White space is one unless another follows it. -/
def readCombinator (cs : List Component) : Option (Combinator × List Component) :=
  match skipBlanks cs with
  | [] => none
  | .token (.delim '>') :: rest => some (.child, rest)
  | .token (.delim '+') :: rest => some (.nextSibling, rest)
  | .token (.delim '~') :: rest => some (.laterSibling, rest)
  | c :: rest =>
      match cs with
      | .token .blank :: _ => some (.descendant, c :: rest)
      | _ => none

/-- Whether a component cannot stand in a list that drops what it cannot read. -/
def isErrorToken : Component → Bool
  | .token .badUrl => true
  | .token .badString => true
  | .token (.closing _) => true
  | _ => false

/-! ### Conditions and selectors -/

/-- What is allowed where a selector is read: `:has()` must not hold another. -/
structure Allowance where
  has : Bool

mutual

/-- One condition that is not a name, with what follows it. The result `some none` says that no
condition starts here. -/
def readCondition (fuel : Nat) (allow : Allowance) (cs : List Component) :
    Option (Option (List Condition × List Component)) :=
  match fuel with
  | 0 => none
  | fuel + 1 =>
      match cs with
      | .token (.hash name true) :: rest => some (some ([.id name], rest))
      | .token (.delim '.') :: rest =>
          match rest with
          | .token (.ident name) :: rest => some (some ([.className name], rest))
          | _ => none
      | .block .square items :: rest =>
          match readAttr items with
          | some condition => some (some ([condition], rest))
          | none => none
      | .token .colon :: .token (.ident name) :: rest =>
          match plainConditions? (lowerName name) with
          | some conditions => some (some (conditions, rest))
          | none => none
      | .token .colon :: .function name items :: rest =>
          match readFunction fuel allow (lowerName name) items with
          | some condition => some (some ([condition], rest))
          | none => none
      | .token .colon :: _ => none
      | _ => some none

/-- The condition that a function stands for. -/
def readFunction (fuel : Nat) (allow : Allowance) (name : String) (items : List Component) :
    Option Condition :=
  match fuel with
  | 0 => none
  | fuel + 1 =>
      match nthKind? name with
      | some kind =>
          match readNth items with
          | some ((step, offset), rest) =>
              if isExhausted rest then some (.nth kind step offset) else none
          | none => none
      | none =>
          if name = "is" || name = "where" then
            (readForgiving fuel allow (splitCommas items)).map .any
          else if name = "not" then
            (readAll fuel allow false (splitCommas items)).map .none
          else if name = "has" then
            if allow.has then (readAll fuel ⟨false⟩ true (splitCommas items)).map .has else none
          else none

/-- The conditions of a compound after its name, at most `bound` of them. -/
def readConditions (fuel : Nat) (allow : Allowance) (bound : Nat) (cs : List Component) :
    Option (List Condition × List Component) :=
  match fuel, bound with
  | 0, _ => none
  | _, 0 => some ([], cs)
  | fuel + 1, bound + 1 =>
      match readCondition fuel allow cs with
      | none => none
      | some none => some ([], cs)
      | some (some (conditions, rest)) =>
          match readConditions fuel allow bound rest with
          | some (more, rest) => some (conditions ++ more, rest)
          | none => none

/-- A compound: a name and conditions, at least one of them. -/
def readCompound (fuel : Nat) (allow : Allowance) (cs : List Component) :
    Option (List Condition × List Component) :=
  match fuel with
  | 0 => none
  | fuel + 1 =>
      let cs := skipBlanks cs
      match readScopedName false cs with
      | .malformed => none
      | .found ⟨scope, name⟩ rest =>
          let vocabulary := match scope with | .absent => [.noVocabulary] | _ => []
          let named := match name with | some name => [.tag name] | none => []
          match readConditions fuel allow rest.length rest with
          | some (more, rest) => some (vocabulary ++ named ++ more, rest)
          | none => none
      | .missing =>
          match readConditions fuel allow cs.length cs with
          | some ([], _) => none
          | some (more, rest) => some (more, rest)
          | none => none

/-- The rest of a selector after a compound. -/
def readChain (fuel : Nat) (allow : Allowance) (bound : Nat) (before : Selector)
    (cs : List Component) : Option Selector :=
  match fuel, bound with
  | 0, _ => none
  | _, 0 => none
  | fuel + 1, bound + 1 =>
      match readCombinator cs with
      | none => if isExhausted cs then some before else none
      | some (combinator, rest) =>
          match readCompound fuel allow rest with
          | some (conditions, rest) =>
              readChain fuel allow bound (.combined conditions combinator before) rest
          | none => none

/-- A selector; a relative one starts from the element that it is a condition on. -/
def readSelector (fuel : Nat) (allow : Allowance) (relative : Bool) (cs : List Component) :
    Option Selector :=
  match fuel with
  | 0 => none
  | fuel + 1 =>
      let cs := skipBlanks cs
      if relative then
        let (combinator, cs) := (readCombinator cs).getD (.descendant, cs)
        match readCompound fuel allow cs with
        | some (conditions, rest) =>
            readChain fuel allow (rest.length + 1)
              (.combined conditions combinator (.compound [.anchor])) rest
        | none => none
      else
        match readCompound fuel allow cs with
        | some (conditions, rest) =>
            readChain fuel allow (rest.length + 1) (.compound conditions) rest
        | none => none

/-- The selectors of a list, all of which must be well formed. -/
def readAll (fuel : Nat) (allow : Allowance) (relative : Bool) (parts : List (List Component)) :
    Option (List Selector) :=
  match fuel, parts with
  | 0, _ => none
  | _, [] => some []
  | fuel + 1, part :: parts =>
      match readSelector fuel allow relative part, readAll fuel allow relative parts with
      | some s, some ss => some (s :: ss)
      | _, _ => none

/-- The selectors of a list, without those that are malformed. -/
def readForgiving (fuel : Nat) (allow : Allowance) (parts : List (List Component)) :
    Option (List Selector) :=
  match fuel, parts with
  | 0, _ => none
  | _, [] => some []
  | fuel + 1, part :: parts =>
      match readSelector fuel allow false part, readForgiving fuel allow parts with
      | some s, some ss => some (s :: ss)
      | none, some ss => if part.any isErrorToken then none else some ss
      | _, none => none

end

mutual

/-- The number of tokens in a component. -/
def Component.size : Component → Nat
  | .token _ => 1
  | .block _ items => componentsSize items + 1
  | .function _ items => componentsSize items + 1

/-- The number of tokens in components. -/
def componentsSize : List Component → Nat
  | [] => 0
  | c :: cs => c.size + componentsSize cs

end

/-- The selectors of a text, if it is a well-formed list of them. Reading goes no deeper than a
fixed number of calls for each token. -/
def parseSelectors (text : String) : Option (List Selector) :=
  let cs := components text
  readAll (8 * componentsSize cs + 16) ⟨true⟩ false (splitCommas cs)

end PageModel.Css
