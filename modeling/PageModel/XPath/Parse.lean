import PageModel.Number.Digits
import PageModel.Unicode.Blank
import PageModel.Unicode.CharClass
import PageModel.Unicode.Lowercase
import PageModel.XPath.Path

/-!
# Reading location paths

The text of a path: steps that start with one or two slashes, each a name or an asterisk with
predicates in brackets, and in the last place possibly an attribute or a function. The first
step may leave its slashes out. What is wrong with a text that is no path is a fault, with the
number of bytes before the place where it was found.
-/

namespace PageModel.XPath

/-- What is wrong with the text of a path. -/
inductive Reason where
  | emptyExpression
  | expectedSlash
  | expectedAttrName
  | expectedNodeTest
  | unsupportedFunction (name : String)
  | trailingInput
  | expectedClosingBracket
  | positionZero
  | expectedPredicate
  | unsupportedPredicate (name : String)
  | expectedOpenParenthesis
  | expectedAt
  | expectedComma
  | expectedCloseParenthesis
  | expectedLiteral
  | unterminatedLiteral
deriving Repr, DecidableEq

/-- The wording of a reason. -/
def Reason.message : Reason → String
  | .emptyExpression => "expression is empty"
  | .expectedSlash => "expected '/'"
  | .expectedAttrName => "expected attribute name"
  | .expectedNodeTest => "expected node test"
  | .unsupportedFunction name => "unsupported function " ++ name ++ "()"
  | .trailingInput => "unexpected trailing input"
  | .expectedClosingBracket => "expected ']'"
  | .positionZero => "positions start at 1"
  | .expectedPredicate => "expected predicate"
  | .unsupportedPredicate name => "unsupported predicate " ++ name
  | .expectedOpenParenthesis => "expected '('"
  | .expectedAt => "expected '@'"
  | .expectedComma => "expected ','"
  | .expectedCloseParenthesis => "expected ')'"
  | .expectedLiteral => "expected quoted string"
  | .unterminatedLiteral => "unterminated string"

/-- A fault: its reason, and the number of bytes before it. -/
structure Fault where
  reason : Reason
  offset : Nat
deriving Repr, DecidableEq

/-- The wording of a fault. -/
def Fault.message (f : Fault) : String :=
  f.reason.message ++ " at offset " ++ toString f.offset

/-- What a reader gives: a value and the text after it, or a reason and the text that follows
the place of the fault. -/
abbrev Reading (α : Type) := Except (Reason × List Char) (α × List Char)

/-! ### Names, literals and numbers -/

/-- The characters of names. -/
def isNameChar (c : Char) : Bool :=
  Unicode.isAlphanumeric c || c = '-' || c = '_' || c = ':'

/-- Whether a run of characters of names is a name: it is not empty and starts with no digit. -/
def isName : List Char → Bool
  | [] => false
  | c :: _ => !c.isDigit

/-- A name, as long as it goes; if there is none, the fault stands after the run. -/
def readName (otherwise : Reason) (cs : List Char) : Reading String :=
  let run := cs.takeWhile isNameChar
  let rest := cs.dropWhile isNameChar
  if isName run then .ok (String.ofList run, rest) else .error (otherwise, rest)

/-- A text between quotes of one kind. -/
def readLiteral : List Char → Reading String
  | [] => .error (.expectedLiteral, [])
  | q :: r =>
      if q = '\'' ∨ q = '"' then
        match r.dropWhile (· != q) with
        | [] => .error (.unterminatedLiteral, [])
        | _ :: rest => .ok (String.ofList (r.takeWhile (· != q)), rest)
      else
        .error (.expectedLiteral, q :: r)

/-- The bound of the numbers that a position may be. -/
def positionBound : Nat := UInt64.size

/-- A number below the bound. -/
def readNumber (cs : List Char) : Option (Nat × List Char) :=
  let digits := cs.takeWhile Char.isDigit
  if digits.isEmpty then none
  else if decimalValue digits < positionBound then
    some (decimalValue digits, cs.dropWhile Char.isDigit)
  else none

/-- A text without the given start, if it has it. -/
def dropPrefix? : (start : List Char) → List Char → Option (List Char)
  | [], cs => some cs
  | _ :: _, [] => none
  | s :: ss, c :: cs => if s = c then dropPrefix? ss cs else none

/-! ### Predicates -/

/-- A predicate about an attribute, after its at sign. -/
def readAttrPredicate (cs : List Char) : Reading Predicate :=
  match readName .expectedAttrName cs with
  | .error e => .error e
  | .ok (name, r) =>
      match Unicode.trimStart r with
      | '!' :: '=' :: r =>
          match readLiteral (Unicode.trimStart r) with
          | .error e => .error e
          | .ok (value, r) => .ok (.attr name (.differs value), r)
      | '=' :: r =>
          match readLiteral (Unicode.trimStart r) with
          | .error e => .error e
          | .ok (value, r) => .ok (.attr name (.equals value), r)
      | r => .ok (.attr name .present, r)

/-- The arguments of a predicate that is a function: an attribute and a literal. -/
def readArguments (cs : List Char) : Reading (String × String) :=
  match Unicode.trimStart cs with
  | '(' :: r =>
      match Unicode.trimStart r with
      | '@' :: r =>
          match readName .expectedAttrName r with
          | .error e => .error e
          | .ok (name, r) =>
              match Unicode.trimStart r with
              | ',' :: r =>
                  match readLiteral (Unicode.trimStart r) with
                  | .error e => .error e
                  | .ok (value, r) =>
                      match Unicode.trimStart r with
                      | ')' :: r => .ok ((name, value), r)
                      | r => .error (.expectedCloseParenthesis, r)
              | r => .error (.expectedComma, r)
      | r => .error (.expectedAt, r)
  | r => .error (.expectedOpenParenthesis, r)

/-- The test that a function of a predicate makes. -/
def functionTest? : String → Option (String → AttrTest)
  | "contains" => some .contains
  | "starts-with" => some .startsWith
  | _ => none

/-- A predicate that is a function. -/
def readFunctionPredicate (cs : List Char) : Reading Predicate :=
  match readName .expectedPredicate cs with
  | .error e => .error e
  | .ok (function, r) =>
      match functionTest? function with
      | none => .error (.unsupportedPredicate function, r)
      | some test =>
          match readArguments r with
          | .error e => .error e
          | .ok ((name, value), r) => .ok (.attr name (test value), r)

/-- A predicate, without its brackets. -/
def readPredicate (cs : List Char) : Reading Predicate :=
  match readNumber cs with
  | some (n, r) => if n = 0 then .error (.positionZero, r) else .ok (.position n, r)
  | none =>
      match dropPrefix? "last()".toList cs with
      | some r => .ok (.last, r)
      | none =>
          match cs with
          | '@' :: r => readAttrPredicate r
          | _ => readFunctionPredicate cs

/-! ### What is read is left behind -/

theorem length_trimStart_le (cs : List Char) :
  (Unicode.trimStart cs).length ≤ cs.length
  :=
  (List.dropWhile_sublist _).length_le

theorem readName_length_lt {e : Reason} {cs rest : List Char} {name : String}
    (h : readName e cs = .ok (name, rest)) :
  rest.length < cs.length
  := by
  simp only [readName] at h
  split at h
  · next hn =>
    cases h
    have hlen := congrArg List.length (List.takeWhile_append_dropWhile (p := isNameChar) (l := cs))
    rw [List.length_append] at hlen
    have : (cs.takeWhile isNameChar).length ≠ 0 := by
      intro h0
      rw [List.length_eq_zero_iff.1 h0] at hn
      simp [isName] at hn
    omega
  · cases h

theorem readLiteral_length_lt {cs rest : List Char} {value : String}
    (h : readLiteral cs = .ok (value, rest)) :
  rest.length < cs.length
  := by
  unfold readLiteral at h
  split at h
  · cases h
  · next q r =>
    split at h
    · split at h
      · cases h
      · next d rest' hd =>
        cases h
        have hle := (List.dropWhile_sublist (l := r) (· != q)).length_le
        rw [hd] at hle
        simp only [List.length_cons] at *
        omega
    · cases h

theorem readNumber_length_le {cs rest : List Char} {n : Nat}
    (h : readNumber cs = some (n, rest)) :
  rest.length ≤ cs.length
  := by
  simp only [readNumber] at h
  split at h
  · cases h
  · split at h
    · cases h
      exact (List.dropWhile_sublist _).length_le
    · cases h

theorem dropPrefix?_length_le {start cs rest : List Char}
    (h : dropPrefix? start cs = some rest) :
  rest.length ≤ cs.length
  := by
  fun_induction dropPrefix? start cs with
  | case1 cs => cases h; simp
  | case2 => cases h
  | case3 ss c cs ih =>
    have := ih h
    simp only [List.length_cons]
    omega
  | case4 => cases h

/-- A text that is white space and then `rest'` is longer than `rest'` by as much at least. -/
private theorem length_of_trimStart_eq {cs rest : List Char} (h : Unicode.trimStart cs = rest) :
  rest.length ≤ cs.length
  := by
  rw [← h]
  apply length_trimStart_le

theorem readAttrPredicate_length_le {cs rest : List Char} {p : Predicate}
    (h : readAttrPredicate cs = .ok (p, rest)) :
  rest.length ≤ cs.length
  := by
  unfold readAttrPredicate at h
  split at h
  · cases h
  · next name r hn =>
    have h1 := readName_length_lt hn
    split at h
    · next r' ht =>
      have h2 := length_of_trimStart_eq ht
      split at h
      · cases h
      · next value r'' hl =>
        have h3 := readLiteral_length_lt hl
        have h4 := length_trimStart_le r'
        cases h
        simp only [List.length_cons] at h2
        omega
    · next r' ht =>
      have h2 := length_of_trimStart_eq ht
      split at h
      · cases h
      · next value r'' hl =>
        have h3 := readLiteral_length_lt hl
        have h4 := length_trimStart_le r'
        cases h
        simp only [List.length_cons] at h2
        omega
    · have h2 := length_trimStart_le r
      cases h
      omega

theorem readArguments_length_le {cs rest : List Char} {a : String × String}
    (h : readArguments cs = .ok (a, rest)) :
  rest.length ≤ cs.length
  := by
  unfold readArguments at h
  split at h
  · next r1 h1 =>
    have h1 := length_of_trimStart_eq h1
    split at h
    · next r2 h2 =>
      have h2 := length_of_trimStart_eq h2
      split at h
      · cases h
      · next name r3 h3 =>
        have h3 := readName_length_lt h3
        split at h
        · next r4 h4 =>
          have h4 := length_of_trimStart_eq h4
          split at h
          · cases h
          · next value r5 h5 =>
            have h5 := readLiteral_length_lt h5
            have h5' := length_trimStart_le r4
            split at h
            · next r6 h6 =>
              have h6 := length_of_trimStart_eq h6
              cases h
              simp only [List.length_cons] at *
              omega
            · cases h
        · cases h
    · cases h
  · cases h

theorem readFunctionPredicate_length_le {cs rest : List Char} {p : Predicate}
    (h : readFunctionPredicate cs = .ok (p, rest)) :
  rest.length ≤ cs.length
  := by
  unfold readFunctionPredicate at h
  split at h
  · cases h
  · next function r hn =>
    have h1 := readName_length_lt hn
    split at h
    · cases h
    · split at h
      · cases h
      · next name value r' ha =>
        have h2 := readArguments_length_le ha
        cases h
        omega

theorem readPredicate_length_le {cs rest : List Char} {p : Predicate}
    (h : readPredicate cs = .ok (p, rest)) :
  rest.length ≤ cs.length
  := by
  unfold readPredicate at h
  split at h
  · next n r hn =>
    split at h
    · cases h
    · cases h
      exact readNumber_length_le hn
  · split at h
    · next r hd =>
      cases h
      exact dropPrefix?_length_le hd
    · split at h
      · exact Nat.le_succ_of_le (readAttrPredicate_length_le h)
      · exact readFunctionPredicate_length_le h

/-! ### Steps and paths -/

/-- The predicates in brackets at the start of a text. -/
def readPredicates (cs : List Char) : Reading (List Predicate) :=
  match cs with
  | '[' :: r =>
      match hp : readPredicate (Unicode.trimStart r) with
      | .error e => .error e
      | .ok (p, r1) =>
          match hc : Unicode.trimStart r1 with
          | ']' :: r2 =>
              have : r2.length < r.length + 1 := by
                have h1 := readPredicate_length_le hp
                have h2 := length_trimStart_le r
                have h3 := length_of_trimStart_eq hc
                simp only [List.length_cons] at h3
                omega
              match readPredicates r2 with
              | .error e => .error e
              | .ok (ps, rest) => .ok (p :: ps, rest)
          | r2 => .error (.expectedClosingBracket, r2)
  | _ => .ok ([], cs)
termination_by cs.length

theorem readPredicates_length_le {cs rest : List Char} {ps : List Predicate}
    (h : readPredicates cs = .ok (ps, rest)) :
  rest.length ≤ cs.length
  := by
  fun_induction readPredicates cs generalizing ps with
  | case1 => cases h
  | case2 => cases h
  | case3 r p r1 hp r2 hc hlt ps' rest' hr ih =>
    cases h
    have := ih hr
    simp only [List.length_cons]
    omega
  | case4 => cases h
  | case5 => cases h; simp

/-- The axis that a part of a path starts with. The first part may leave its slashes out, and
then looks anywhere in the document. -/
def readAxis (isFirst : Bool) : List Char → Option (Axis × List Char)
  | '/' :: '/' :: r => some (.descendant, r)
  | '/' :: r => some (.child, r)
  | cs => if isFirst then some (.descendant, cs) else none

theorem readAxis_length_le {isFirst : Bool} {cs rest : List Char} {axis : Axis}
    (h : readAxis isFirst cs = some (axis, rest)) :
  rest.length ≤ cs.length
  := by
  unfold readAxis at h
  split at h
  · cases h
    simp
    omega
  · cases h
    simp
  · split at h
    · cases h
      simp
    · cases h

/-- What a function in the last place writes. -/
def functionOutput? : String → Option Output
  | "text" => some .ownText
  | "allText" => some .allText
  | "tidyText" => some .tidyText
  | "html" => some .innerMarkup
  | "outerHtml" => some .outerMarkup
  | _ => none

/-- The end of a path after its last part, where nothing but white space may follow. -/
def readEnd (path : Path) (cs : List Char) : Except (Reason × List Char) Path :=
  match Unicode.trimStart cs with
  | [] => .ok path
  | r => .error (.trailingInput, r)

/-- How a part of a path starts, after its slashes: as an attribute, an asterisk or a name. -/
inductive PartStart where
  | attr (rest : List Char)
  | wildcard (rest : List Char)
  | named (rest : List Char)

/-- The text of a part that follows its first sign. -/
def PartStart.rest : PartStart → List Char
  | .attr r => r
  | .wildcard r => r
  | .named r => r

/-- How a part starts. -/
def PartStart.of : List Char → PartStart
  | '@' :: r => .attr r
  | '*' :: r => .wildcard r
  | r => .named r

theorem PartStart.length_rest_le (cs : List Char) :
  (PartStart.of cs).rest.length ≤ cs.length
  := by
  unfold PartStart.of
  split <;> simp [PartStart.rest]

theorem PartStart.wildcard_length_lt {cs r : List Char} (h : PartStart.of cs = .wildcard r) :
  r.length < cs.length
  := by
  unfold PartStart.of at h
  split at h <;> cases h
  simp

/-- A part of a path: a step, or what the path ends in, with the axis before it. -/
inductive Part where
  | step (step : Step)
  | terminal (output : Output) (axis : Axis)

/-- A part of a path, with its slashes. -/
def readPart (isFirst : Bool) (cs : List Char) : Reading Part :=
  match readAxis isFirst cs with
  | none => .error (.expectedSlash, cs)
  | some (axis, r) =>
      match PartStart.of r with
      | .attr r =>
          match readName .expectedAttrName r with
          | .error e => .error e
          | .ok (name, r) => .ok (.terminal (.attr name) axis, r)
      | .wildcard r =>
          match readPredicates r with
          | .error e => .error e
          | .ok (ps, r) => .ok (.step ⟨axis, .any, ps⟩, r)
      | .named r =>
          match readName .expectedNodeTest r with
          | .error e => .error e
          | .ok (name, r) =>
              match dropPrefix? "()".toList r with
              | some r =>
                  match functionOutput? name with
                  | none => .error (.unsupportedFunction name, r)
                  | some output => .ok (.terminal output axis, r)
              | none =>
                  match readPredicates r with
                  | .error e => .error e
                  | .ok (ps, r) =>
                      .ok (.step ⟨axis, .tag (Unicode.lowercaseText name), ps⟩, r)

theorem readPart_length_lt {isFirst : Bool} {cs rest : List Char} {step : Step}
    (h : readPart isFirst cs = .ok (.step step, rest)) :
  rest.length < cs.length
  := by
  unfold readPart at h
  split at h
  · cases h
  · next axis r ha =>
    have h1 := readAxis_length_le ha
    split at h
    · split at h <;> cases h
    · next r1 hs =>
      have h2 := PartStart.wildcard_length_lt hs
      split at h
      · cases h
      · next ps r2 hp =>
        have h3 := readPredicates_length_le hp
        cases h
        omega
    · next r1 hs =>
      have h2 := PartStart.length_rest_le r
      rw [hs] at h2
      simp only [PartStart.rest] at h2
      split at h
      · cases h
      · next name r2 hn =>
        have h3 := readName_length_lt hn
        split at h
        · split at h <;> cases h
        · split at h
          · cases h
          · next ps r3 hp =>
            have h4 := readPredicates_length_le hp
            cases h
            omega

/-- The parts of a path; `steps` are those before. -/
def readParts (steps : List Step) (cs : List Char) : Except (Reason × List Char) Path :=
  if cs = [] then .ok ⟨steps, .outerMarkup, .child⟩
  else
    match h : readPart steps.isEmpty cs with
    | .error e => .error e
    | .ok (.terminal output axis, r) => readEnd ⟨steps, output, axis⟩ r
    | .ok (.step step, r) =>
        have : (Unicode.trimStart r).length < cs.length :=
          Nat.lt_of_le_of_lt (length_trimStart_le r) (readPart_length_lt h)
        readParts (steps ++ [step]) (Unicode.trimStart r)
termination_by cs.length

/-- The number of bytes of a text. -/
def byteSize (cs : List Char) : Nat :=
  cs.foldr (fun c n => c.utf8Size + n) 0

/-- The path that a text denotes, or the fault at the place before what could not be read. -/
def Path.parse (expression : String) : Except Fault Path :=
  let source := expression.toList
  let start := Unicode.trimStart source
  match if start.isEmpty then .error (.emptyExpression, []) else readParts [] start with
  | .ok path => .ok path
  | .error (reason, rest) => .error ⟨reason, byteSize source - byteSize rest⟩

end PageModel.XPath
