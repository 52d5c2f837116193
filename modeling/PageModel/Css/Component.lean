import PageModel.Css.Token

/-!
# Brackets matched

Tokens with their brackets matched: a bracket or a function holds what stands up to its closing
bracket. A text that ends inside a bracket closes it; a closing bracket that closes nothing is a
token of its own.
-/

namespace PageModel.Css

/-- A token, or a bracket or a function with what it holds. -/
inductive Component where
  | token (t : Token)
  | block (bracket : Bracket) (items : List Component)
  | function (name : String) (items : List Component)
deriving Inhabited

/-- An open bracket or function, with what came before it, in reverse. -/
structure OpenBlock where
  bracket : Bracket
  function : Option String
  before : List Component

/-- The component that closes an open bracket that holds `items`, given in reverse. -/
def OpenBlock.close (b : OpenBlock) (items : List Component) : Component :=
  match b.function with
  | some name => .function name items.reverse
  | none => .block b.bracket items.reverse

/-- Components of the tokens: `done` are those of the innermost open bracket, in reverse, and
`pending` the open brackets, innermost first. -/
def matchBrackets (done : List Component) : (pending : List OpenBlock) → List Token →
    List Component
  | [], [] => done.reverse
  | b :: bs, [] => matchBrackets (b.close done :: b.before) bs []
  | bs, t :: ts =>
      match t with
      | .opening bracket => matchBrackets [] (⟨bracket, none, done⟩ :: bs) ts
      | .function name => matchBrackets [] (⟨.round, some name, done⟩ :: bs) ts
      | .closing bracket =>
          match bs with
          | b :: below =>
              if b.bracket = bracket then matchBrackets (b.close done :: b.before) below ts
              else matchBrackets (.token t :: done) bs ts
          | [] => matchBrackets (.token t :: done) [] ts
      | _ => matchBrackets (.token t :: done) bs ts
termination_by bs ts => (ts.length, bs.length)

/-- The components of a text. -/
def components (text : String) : List Component :=
  matchBrackets [] [] (tokens text)

/-- Components without white space at their start. -/
def skipBlanks : List Component → List Component
  | .token .blank :: cs => skipBlanks cs
  | cs => cs

/-- Whether nothing but white space is left. -/
def isExhausted (cs : List Component) : Bool :=
  (skipBlanks cs).isEmpty

/-- Components cut at commas. -/
def splitCommas : List Component → List (List Component)
  | [] => [[]]
  | c :: cs =>
      match c, splitCommas cs with
      | .token .comma, parts => [] :: parts
      | c, part :: parts => (c :: part) :: parts
      | c, [] => [[c]]

mutual

/-- A bound on how deep components are nested. -/
def Component.depth : Component → Nat
  | .token _ => 0
  | .block _ items => componentsDepth items + 1
  | .function _ items => componentsDepth items + 1

/-- A bound on how deep the components of a list are nested. -/
def componentsDepth : List Component → Nat
  | [] => 0
  | c :: cs => max c.depth (componentsDepth cs)

end

end PageModel.Css
