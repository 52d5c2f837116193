import PageModel.XPath.Parse

/-!
# The grammar of location paths

What a text has to be to denote a path, and which path it denotes. A rule relates a text to what it
denotes and is composed of texts of other rules, without saying how they are found: a name is any
run of its characters. As no sign that may follow a name in a path continues it, each name of a
derivation is as long as its run, and the name of a step is not followed by `()`.
-/

namespace PageModel.XPath

/-! ### Spaces, names, literals and numbers -/

/-- Runs of white space, the empty one among them. -/
def IsSpace (cs : List Char) : Prop :=
  ∀ c ∈ cs, Unicode.isBlank c = true

/-- Names: runs of characters of names that are not empty and start with no digit. -/
structure IsNameText (cs : List Char) : Prop where
  nonempty : cs ≠ []
  chars : ∀ c ∈ cs, isNameChar c = true
  first : ∀ c ∈ cs.head?, c.isDigit = false

/-- Literals: values in quotes of one kind, of which they are free. -/
inductive IsLiteral : List Char → String → Prop
  | quoted {q : Char} {value : List Char} :
      q = '\'' ∨ q = '"' → q ∉ value →
      IsLiteral (q :: value ++ [q]) (String.ofList value)

/-- Decimal numbers that a position may be. -/
structure IsPosition (digits : List Char) (n : Nat) : Prop where
  nonempty : digits ≠ []
  chars : ∀ c ∈ digits, c.isDigit = true
  value : decimalValue digits = n
  pos : 1 ≤ n
  bound : n < UInt64.size

/-! ### Predicates -/

/-- The functions of predicates and the tests that they make. -/
inductive IsFunction : List Char → (String → AttrTest) → Prop
  | contains : IsFunction "contains".toList .contains
  | startsWith : IsFunction "starts-with".toList .startsWith

/-- The comparisons of predicates and the tests that they make. -/
inductive IsComparison : List Char → (String → AttrTest) → Prop
  | equals : IsComparison ['='] .equals
  | differs : IsComparison ['!', '='] .differs

/-- Predicates, without the brackets. -/
inductive IsPredicate : List Char → Predicate → Prop
  | position {digits : List Char} {n : Nat} :
      IsPosition digits n → IsPredicate digits (.position n)
  | last : IsPredicate "last()".toList .last
  | present {name : List Char} :
      IsNameText name →
      IsPredicate ('@' :: name) (.attr (String.ofList name) .present)
  | comparison {name space sign space' literal : List Char} {value : String}
      {test : String → AttrTest} :
      IsNameText name → IsSpace space → IsComparison sign test → IsSpace space' →
      IsLiteral literal value →
      IsPredicate ('@' :: name ++ space ++ sign ++ space' ++ literal)
        (.attr (String.ofList name) (test value))
  | function {function space₁ space₂ name space₃ space₄ literal space₅ : List Char}
      {value : String} {test : String → AttrTest} :
      IsFunction function test → IsSpace space₁ → IsSpace space₂ → IsNameText name →
      IsSpace space₃ → IsSpace space₄ → IsLiteral literal value → IsSpace space₅ →
      IsPredicate
        (function ++ space₁ ++ ['('] ++ space₂ ++ ['@'] ++ name ++ space₃ ++ [','] ++ space₄ ++
          literal ++ space₅ ++ [')'])
        (.attr (String.ofList name) (test value))

/-- Predicates in brackets, one after the other without space between them. -/
inductive IsPredicates : List Char → List Predicate → Prop
  | nil : IsPredicates [] []
  | cons {space text space' texts : List Char} {p : Predicate} {ps : List Predicate} :
      IsSpace space → IsPredicate text p → IsSpace space' → IsPredicates texts ps →
      IsPredicates (['['] ++ space ++ text ++ space' ++ [']'] ++ texts) (p :: ps)

/-! ### Parts -/

/-- The slashes before a part. The first part may leave them out, and has the axis of two slashes
then. -/
inductive IsAxis : (isFirst : Bool) → List Char → Axis → Prop
  | descendant {isFirst : Bool} : IsAxis isFirst ['/', '/'] .descendant
  | child {isFirst : Bool} : IsAxis isFirst ['/'] .child
  | omitted : IsAxis true [] .descendant

/-- What a step asks of names: anything, or the lower case of a name. -/
inductive IsNodeTest : List Char → NodeTest → Prop
  | any : IsNodeTest ['*'] .any
  | tag {name : List Char} :
      IsNameText name →
      IsNodeTest name (.tag (Unicode.lowercaseText (String.ofList name)))

/-- The functions in the last place and what they write. -/
inductive IsOutputFunction : List Char → Output → Prop
  | text : IsOutputFunction "text".toList .ownText
  | allText : IsOutputFunction "allText".toList .allText
  | tidyText : IsOutputFunction "tidyText".toList .tidyText
  | html : IsOutputFunction "html".toList .innerMarkup
  | outerHtml : IsOutputFunction "outerHtml".toList .outerMarkup

/-- What a path may end in. -/
inductive IsTerminal : List Char → Output → Prop
  | attr {name : List Char} :
      IsNameText name → IsTerminal ('@' :: name) (.attr (String.ofList name))
  | function {function : List Char} {output : Output} :
      IsOutputFunction function output → IsTerminal (function ++ "()".toList) output

/-- Parts: steps and terminals. Nothing stands between the node test of a step and its predicates,
and nothing between slashes and what follows them. -/
inductive IsPart (isFirst : Bool) : List Char → Part → Prop
  | step {slashes text texts : List Char} {axis : Axis} {test : NodeTest} {ps : List Predicate} :
      IsAxis isFirst slashes axis → IsNodeTest text test → IsPredicates texts ps →
      IsPart isFirst (slashes ++ text ++ texts) (.step ⟨axis, test, ps⟩)
  | terminal {slashes text : List Char} {axis : Axis} {output : Output} :
      IsAxis isFirst slashes axis → IsTerminal text output →
      IsPart isFirst (slashes ++ text) (.terminal output axis)

/-- The parts of a path, of which there is one at least: steps, and possibly a terminal in the last
place. Without one the markup of elements is written. -/
inductive IsParts : (isFirst : Bool) → List Char → Path → Prop
  | terminal {isFirst : Bool} {text space : List Char} {output : Output} {axis : Axis} :
      IsPart isFirst text (.terminal output axis) → IsSpace space →
      IsParts isFirst (text ++ space) ⟨[], output, axis⟩
  | last {isFirst : Bool} {text space : List Char} {step : Step} :
      IsPart isFirst text (.step step) → IsSpace space →
      IsParts isFirst (text ++ space) ⟨[step], .outerMarkup, .child⟩
  | step {isFirst : Bool} {text space rest : List Char} {step : Step} {path : Path} :
      IsPart isFirst text (.step step) → IsSpace space → IsParts false rest path →
      IsParts isFirst (text ++ space ++ rest) { path with steps := step :: path.steps }

/-- The texts that denote a path: parts, possibly after white space. -/
inductive IsPath : List Char → Path → Prop
  | parts {space text : List Char} {path : Path} :
      IsSpace space → IsParts true text path → IsPath (space ++ text) path

end PageModel.XPath
