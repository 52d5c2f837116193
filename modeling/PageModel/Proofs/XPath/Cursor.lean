import PageModel.Proofs.Rounds
import PageModel.XPath.Parse

/-!
# Reading by a cursor

A path may also be read by a cursor, which is a number of bytes of the text. Whatever is asked about the
text from there on is asked of the text cut at the cursor, and to cut a text within a character, or
beyond its end, is impossible. The cursor is moved by the number of bytes of a sign, by one byte over a
quote, to where white space or a run of characters ends, and back to where it was if a number is too
large. The steps and the predicates of a path are read in rounds, for as long as a round does not say
that it was the last (`Process.rounds`); nothing else says that they come to an end.
-/

namespace PageModel.XPath

/-- A cursor: the number of bytes before it, and the numbers of bytes that were before it until now. -/
structure Cursor where
  pos : Nat
  past : List Nat := []
deriving Repr, DecidableEq

/-- A text cut after a number of bytes, unless a character would have to be cut or the text is
shorter. -/
def cut? : Nat → List Char → Option (List Char × List Char)
  | 0, cs => some ([], cs)
  | _ + 1, [] => none
  | n + 1, c :: cs =>
      if c.utf8Size ≤ n + 1 then
        (cut? (n + 1 - c.utf8Size) cs).map fun (before, after) => (c :: before, after)
      else none

namespace Cursor

/-- What keeps a reader from its result: a fault of the text, or that the text is to be cut where it
cannot be cut. -/
inductive Stop where
  | fault (f : Fault)
  | badCut (pos : Nat)
deriving Repr, DecidableEq

/-- Readers that move a cursor. -/
abbrev Reader := Process Stop Cursor

/-! ### Movements -/

/-- The number of bytes before the cursor. -/
def position : Reader Nat := do
  return (← get).pos

/-- The cursor put after a number of bytes of the text. -/
def moveTo (n : Nat) : Reader Unit :=
  modify fun c => ⟨n, c.pos :: c.past⟩

/-- The cursor put further by a number of bytes. -/
def advance (n : Nat) : Reader Unit :=
  modify fun c => ⟨c.pos + n, c.pos :: c.past⟩

/-- The end of reading for a reason, at the cursor. -/
def fail {α : Type} (reason : Reason) : Reader α := do
  throw (.fault ⟨reason, ← position⟩)

variable (source : List Char)

/-- The text after the cursor. -/
def rest : Reader (List Char) := do
  let n ← position
  match cut? n source with
  | some (_, after) => return after
  | none => throw (.badCut n)

def atEnd : Reader Bool := do
  return byteSize source ≤ (← position)

/-- Whether the text goes on with a sign, with the cursor after it if it does. -/
def eat (sign : List Char) : Reader Bool := do
  if sign.isPrefixOf (← rest source) then
    advance (byteSize sign)
    return true
  else
    return false

def expect (sign : List Char) (otherwise : Reason) : Reader Unit := do
  if ← eat source sign then
    return ()
  else
    fail otherwise

def skipSpace : Reader Unit := do
  moveTo (byteSize source - byteSize (Unicode.trimStart (← rest source)))

/-- The run of characters of a class that the text goes on with, with the cursor after it. -/
def takeRun (p : Char → Bool) : Reader (List Char) := do
  let after ← rest source
  let length := byteSize (after.takeWhile p)
  advance length
  match cut? length after with
  | some (run, _) => return run
  | none => throw (.badCut length)

/-! ### Names, literals and numbers -/

def name (otherwise : Reason) : Reader String := do
  let run ← takeRun source isNameChar
  if isName run then
    return String.ofList run
  else
    fail otherwise

/-- A number below the bound. The cursor goes back to the digits of one that is not. -/
def number? : Reader (Option Nat) := do
  let start ← position
  let digits ← takeRun source Char.isDigit
  if digits.isEmpty then
    return none
  else if decimalValue digits < positionBound then
    return some (decimalValue digits)
  else
    moveTo start
    return none

/-- A text between quotes of one kind, the first of which is passed as one byte. -/
def literal : Reader String := do
  match (← rest source).head? with
  | none => fail .expectedLiteral
  | some q =>
      if q = '\'' ∨ q = '"' then
        advance 1
        let value ← takeRun source (· != q)
        expect source [q] .unterminatedLiteral
        return String.ofList value
      else
        fail .expectedLiteral

/-! ### Predicates -/

def attrPredicate : Reader Predicate := do
  let name ← name source .expectedAttrName
  skipSpace source
  if ← eat source ['!', '='] then
    skipSpace source
    return .attr name (.differs (← literal source))
  else if ← eat source ['='] then
    skipSpace source
    return .attr name (.equals (← literal source))
  else
    return .attr name .present

def arguments : Reader (String × String) := do
  skipSpace source
  expect source ['('] .expectedOpenParenthesis
  skipSpace source
  expect source ['@'] .expectedAt
  let name ← name source .expectedAttrName
  skipSpace source
  expect source [','] .expectedComma
  skipSpace source
  let value ← literal source
  skipSpace source
  expect source [')'] .expectedCloseParenthesis
  return (name, value)

def functionPredicate : Reader Predicate := do
  let function ← name source .expectedPredicate
  match functionTest? function with
  | none => fail (.unsupportedPredicate function)
  | some test =>
      let (name, value) ← arguments source
      return .attr name (test value)

def predicate : Reader Predicate := do
  match ← number? source with
  | some n =>
      if n = 0 then
        fail .positionZero
      else
        return .position n
  | none =>
      if ← eat source "last()".toList then
        return .last
      else if ← eat source ['@'] then
        attrPredicate source
      else
        functionPredicate source

/-- A round of reading predicates, after those that have been read: one more, unless the text goes on
without a bracket. -/
def predicateRound (read : List Predicate) : Reader (List Predicate ⊕ List Predicate) := do
  if ← eat source ['['] then
    skipSpace source
    let p ← predicate source
    skipSpace source
    expect source [']'] .expectedClosingBracket
    return .inr (read ++ [p])
  else
    return .inl read

def predicates : Reader (List Predicate) :=
  Process.rounds (predicateRound source) []

/-! ### Steps and paths -/

def axis (isFirst : Bool) : Reader Axis := do
  if ← eat source ['/', '/'] then
    return .descendant
  else if ← eat source ['/'] then
    return .child
  else if isFirst then
    return .descendant
  else
    fail .expectedSlash

/-- A step after its axis and its node test. -/
def step (axis : Axis) (test : NodeTest) : Reader Part := do
  let predicates ← predicates source
  return .step ⟨axis, test, predicates⟩

def part (isFirst : Bool) : Reader Part := do
  let axis ← axis source isFirst
  if ← eat source ['@'] then
    let name ← name source .expectedAttrName
    return .terminal (.attr name) axis
  else if ← eat source ['*'] then
    step source axis .any
  else
    let name ← name source .expectedNodeTest
    if ← eat source "()".toList then
      match functionOutput? name with
      | none => fail (.unsupportedFunction name)
      | some output => return .terminal output axis
    else
      step source axis (.tag (Unicode.lowercaseText name))

def expectEnd : Reader Unit := do
  skipSpace source
  if ← atEnd source then
    return ()
  else
    fail .trailingInput

/-- A round of reading parts, after the steps that have been read: one more step and the white space
after it, or the output, after which the text ends. -/
def partRound (steps : List Step) : Reader (Path ⊕ List Step) := do
  if ← atEnd source then
    return .inl ⟨steps, .outerMarkup, .child⟩
  else
    match ← part source steps.isEmpty with
    | .step step =>
        skipSpace source
        return .inr (steps ++ [step])
    | .terminal output axis =>
        expectEnd source
        return .inl ⟨steps, output, axis⟩

def parts : Reader Path :=
  Process.rounds (partRound source) []

def path : Reader Path := do
  skipSpace source
  if ← atEnd source then
    fail .emptyExpression
  else
    parts source

end Cursor

end PageModel.XPath
