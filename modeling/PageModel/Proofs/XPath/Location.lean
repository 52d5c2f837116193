import Mathlib.Data.List.Basic
import PageModel.Proofs.XPath.Reading.Path

/-!
# Locations and what follows them

A location is the text of a path without the part that says what is written: steps, after white space.
Any such part may follow it, and then it denotes the same steps (`IsLocation.parse_function`). A text in
which `//text()` follows denotes a path only if what it follows is a location (`parse_text_iff`): no
step ends in a slash or in a bracket of a function.
-/

namespace PageModel.XPath

variable {isFirst : Bool} {cs ds text slashes terminal : List Char} {steps : List Step}
  {axis : Axis} {output : Output}

/-- Steps, one after the other. -/
inductive IsSteps : (isFirst : Bool) → List Char → List Step → Prop
  | nil {isFirst : Bool} : IsSteps isFirst [] []
  | cons {isFirst : Bool} {text space rest : List Char} {step : Step} {steps : List Step} :
      IsPart isFirst text (.step step) → IsSpace space → IsSteps false rest steps →
      IsSteps isFirst (text ++ space ++ rest) (step :: steps)

/-- Locations: steps, possibly after white space. -/
inductive IsLocation : List Char → List Step → Prop
  | steps {space text : List Char} {steps : List Step} :
      IsSpace space → IsSteps true text steps → IsLocation (space ++ text) steps

/-! ### The end of a location -/

/-- Texts that are empty or end with a character of a class. -/
def EndsWithin (p : Char → Bool) (cs : List Char) : Prop :=
  ∀ c ∈ cs.getLast?, p c = true

section

variable {p : Char → Bool}

theorem endsWithin_nil :
  EndsWithin p []
  := by
  intro c hc
  cases hc

theorem endsWithin_of_forall (h : ∀ c ∈ cs, p c = true) :
  EndsWithin p cs
  := by
  intro c hc
  apply h c (List.mem_of_getLast? hc)

/-- The end of a text is that of its last part, if that is not empty. -/
theorem EndsWithin.append_left (hds : EndsWithin p ds) (hne : ds ≠ []) (cs : List Char) :
  EndsWithin p (cs ++ ds)
  := by
  rw [EndsWithin, List.getLast?_append_of_ne_nil cs hne]
  exact hds

theorem EndsWithin.append (hcs : EndsWithin p cs) (hds : EndsWithin p ds) :
  EndsWithin p (cs ++ ds)
  := by
  by_cases hne : ds = []
  · rwa [hne, List.append_nil]
  · apply hds.append_left hne

theorem endsWithin_append_singleton_iff {c : Char} :
  EndsWithin p (cs ++ [c]) ↔ p c = true
  := by
  rw [EndsWithin, List.getLast?_append]
  constructor
  · intro h
    apply h c rfl
  · rintro hc _ ⟨⟩
    exact hc

end

/-- The characters that may stand at the end of a step and of white space after it. -/
def endsStep (c : Char) : Bool :=
  Unicode.isBlank c || isNameChar c || c = '*' || c = ']'

theorem IsSpace.endsWithin (h : IsSpace cs) :
  EndsWithin endsStep cs
  := by
  apply endsWithin_of_forall
  intro c hc
  rw [endsStep, h c hc]
  rfl

theorem IsNodeTest.endsWithin {test : NodeTest} (h : IsNodeTest cs test) :
  EndsWithin endsStep cs
  := by
  apply endsWithin_of_forall
  intro c hc
  cases h with
  | any =>
      obtain rfl := List.mem_singleton.1 hc
      decide
  | tag hname =>
      rw [endsStep, hname.chars c hc, Bool.or_true]
      rfl

theorem IsPredicates.endsWithin {ps : List Predicate} (h : IsPredicates cs ps) :
  EndsWithin endsStep cs
  := by
  induction h with
  | nil => apply endsWithin_nil
  | cons _ _ _ _ ih =>
      apply EndsWithin.append _ ih
      rw [endsWithin_append_singleton_iff]
      decide

theorem IsNodeTest.ne_nil {test : NodeTest} (h : IsNodeTest cs test) :
  cs ≠ []
  := by
  cases h with
  | any => apply List.cons_ne_nil
  | tag hname => exact hname.nonempty

/-- A step ends with its predicates, or else with its node test. -/
theorem IsPart.endsWithin {step : Step} (h : IsPart isFirst cs (.step step)) :
  EndsWithin endsStep cs
  := by
  cases h with
  | step _ htest hps =>
      apply EndsWithin.append _ hps.endsWithin
      apply htest.endsWithin.append_left htest.ne_nil

theorem IsSteps.endsWithin (h : IsSteps isFirst cs steps) :
  EndsWithin endsStep cs
  := by
  induction h with
  | nil => apply endsWithin_nil
  | cons hpart hspace _ ih =>
      apply EndsWithin.append _ ih
      apply hpart.endsWithin.append hspace.endsWithin

/-! ### Locations in paths -/

/-- What says what is written may follow steps. -/
theorem IsSteps.append_terminal (h : IsSteps isFirst text steps)
    (hslashes : ∀ isFirst, IsAxis isFirst slashes axis) (hterminal : IsTerminal terminal output) :
  IsParts isFirst (text ++ (slashes ++ terminal)) ⟨steps, output, axis⟩
  := by
  induction h with
  | @nil isFirst =>
      have hpart := IsParts.terminal (IsPart.terminal (hslashes isFirst) hterminal) isSpace_nil
      rwa [List.append_nil] at hpart
  | cons hpart hspace _ ih =>
      rw [List.append_assoc]
      apply IsParts.step hpart hspace ih

/-- A path is steps, possibly with something after them that says what is written. -/
theorem IsParts.steps_or_terminal {path : Path} (h : IsParts isFirst cs path) :
  IsSteps isFirst cs path.steps ∨
    ∃ text slashes terminal space, cs = text ++ slashes ++ terminal ++ space ∧
      IsSteps isFirst text path.steps ∧ (∃ isFirst, IsAxis isFirst slashes path.outputAxis) ∧
      IsTerminal terminal path.output ∧ IsSpace space
  := by
  induction h with
  | @terminal isFirst text space output axis hpart hspace =>
      cases hpart with
      | @terminal slashes terminal _ _ hslashes hterminal =>
          right
          use [], slashes, terminal, space, rfl, .nil, ⟨isFirst, hslashes⟩, hterminal
  | last hpart hspace =>
      left
      have hsteps := IsSteps.cons hpart hspace .nil
      rwa [List.append_nil] at hsteps
  | @step isFirst text space rest step path hpart hspace hrest ih =>
      rcases ih with hsteps | ⟨more, slashes, terminal, last, rfl, hsteps, hlast⟩
      · left
        apply IsSteps.cons hpart hspace hsteps
      · right
        use text ++ space ++ more, slashes, terminal, last
        refine ⟨?_, .cons hpart hspace hsteps, hlast⟩
        simp only [List.append_assoc]

/-- A location with slashes and a function after it denotes the steps of the location. -/
theorem IsLocation.parse_function {location ending : String} {function : List Char}
    (h : IsLocation location.toList steps) (hslashes : ∀ isFirst, IsAxis isFirst slashes axis)
    (hfunction : IsOutputFunction function output)
    (hending : ending.toList = slashes ++ (function ++ "()".toList)) :
  Path.parse (location ++ ending) = .ok ⟨steps, output, axis⟩
  := by
  apply parse_of_isPath
  rw [String.toList_append, hending]
  generalize location.toList = cs at h
  obtain ⟨hspace, hsteps⟩ := h
  rw [List.append_assoc]
  apply IsPath.parts hspace
  apply hsteps.append_terminal hslashes (.function hfunction)

/-- Slashes after the end of a step are two, if two slashes end the text. -/
theorem eq_of_append_slashes (hds : EndsWithin endsStep ds) (hslashes : IsAxis isFirst slashes axis)
    (h : cs ++ ['/', '/'] = ds ++ slashes) :
  ds = cs ∧ axis = .descendant
  := by
  have hslash (begin : List Char) : ¬ EndsWithin endsStep (begin ++ ['/']) := by
    rw [endsWithin_append_singleton_iff]
    decide
  have hone : cs ++ ['/', '/'] = cs ++ ['/'] ++ ['/'] := by
    rw [List.append_assoc, List.singleton_append]
  cases hslashes with
  | descendant => exact ⟨(List.append_cancel_right h).symm, rfl⟩
  | child =>
      rw [hone] at h
      rw [← List.append_cancel_right h] at hds
      exact absurd hds (hslash cs)
  | omitted =>
      rw [hone, List.append_nil] at h
      rw [← h] at hds
      exact absurd hds (hslash _)

/-- Slashes and a function after the end of a step are two slashes and `text()`, if the text that they
end is. -/
theorem eq_of_append_text {function : List Char} (hds : EndsWithin endsStep ds)
    (hslashes : IsAxis isFirst slashes axis) (hfunction : IsOutputFunction function output)
    (h : cs ++ "//text()".toList = ds ++ slashes ++ (function ++ "()".toList)) :
  ds = cs ∧ axis = .descendant ∧ output = .ownText
  := by
  have hsplit (begin rest : List Char) (hlength : rest.length = 6)
      (hwhole : ds ++ slashes ++ (function ++ "()".toList) = begin ++ rest) :
      cs ++ ['/', '/'] = begin ∧ ['t', 'e', 'x', 't', '(', ')'] = rest := by
    have hlengths : ['t', 'e', 'x', 't', '(', ')'].length = rest.length := hlength.symm
    apply List.append_inj' _ hlengths
    rw [← hwhole, ← h, List.append_assoc]
    rfl
  cases hfunction with
  | allText =>
      obtain ⟨-, hend⟩ := hsplit (ds ++ slashes ++ "all".toList) ['T', 'e', 'x', 't', '(', ')'] rfl
        (by simp)
      exact absurd hend (by decide)
  | tidyText =>
      obtain ⟨-, hend⟩ := hsplit (ds ++ slashes ++ "tidy".toList) ['T', 'e', 'x', 't', '(', ')'] rfl
        (by simp)
      exact absurd hend (by decide)
  | html =>
      obtain ⟨-, hend⟩ := hsplit (ds ++ slashes) ['h', 't', 'm', 'l', '(', ')'] rfl (by simp)
      exact absurd hend (by decide)
  | outerHtml =>
      obtain ⟨-, hend⟩ := hsplit (ds ++ slashes ++ "outer".toList) ['H', 't', 'm', 'l', '(', ')'] rfl
        (by simp)
      exact absurd hend (by decide)
  | text =>
      obtain ⟨hbegin, -⟩ := hsplit (ds ++ slashes) ['t', 'e', 'x', 't', '(', ')'] rfl (by simp)
      obtain ⟨hds, haxis⟩ := eq_of_append_slashes hds hslashes hbegin
      use hds, haxis

/-- What a path with two slashes and `text()` at its end starts with is a location. -/
theorem IsPath.location_of_text {path : Path} (h : IsPath (cs ++ "//text()".toList) path) :
  IsLocation cs path.steps ∧ path.output = .ownText ∧ path.outputAxis = .descendant
  := by
  obtain ⟨steps, output, axis⟩ := path
  have hbracket {begin : List Char} {p : Char → Bool} (hp : p ')' = false)
      (hbegin : cs ++ "//text()".toList = begin) :
      ¬ EndsWithin p begin := by
    have hlast : cs ++ "//text()".toList = cs ++ "//text(".toList ++ [')'] := by
      rw [List.append_assoc]
      rfl
    rw [← hbegin, hlast, endsWithin_append_singleton_iff, hp]
    apply Bool.false_ne_true
  generalize hwhole : cs ++ "//text()".toList = whole at h
  obtain ⟨hspace, hparts⟩ := h
  rcases hparts.steps_or_terminal with
    hsteps | ⟨text, slashes, terminal, last, rfl, hsteps, ⟨_, hslashes⟩, hterminal, hlast⟩
  · exact absurd (hspace.endsWithin.append hsteps.endsWithin) (hbracket (by decide) hwhole)
  obtain rfl : last = [] := by
    by_contra hne
    rw [← List.append_assoc] at hwhole
    have hend : EndsWithin Unicode.isBlank last := endsWithin_of_forall hlast
    exact hbracket (by decide) hwhole (hend.append_left hne _)
  rw [List.append_nil, ← List.append_assoc, ← List.append_assoc] at hwhole
  cases hterminal with
  | @attr name hname =>
      have hend : EndsWithin isNameChar name := endsWithin_of_forall hname.chars
      have hend := hend.append_left hname.nonempty ['@']
      exact absurd (hend.append_left (List.cons_ne_nil '@' name) _) (hbracket (by decide) hwhole)
  | function hfunction =>
      have hbegin := hspace.endsWithin.append hsteps.endsWithin
      obtain ⟨rfl, haxis, houtput⟩ := eq_of_append_text hbegin hslashes hfunction hwhole
      exact ⟨.steps hspace hsteps, houtput, haxis⟩

/-- A text with two slashes and `text()` after it denotes a path if and only if it is a location, and
then the path has the steps of the location. -/
theorem parse_text_iff {location : String} {path : Path} :
  Path.parse (location ++ "//text()") = .ok path ↔
    ∃ steps, IsLocation location.toList steps ∧ path = ⟨steps, .ownText, .descendant⟩
  := by
  constructor
  · intro h
    have hpath := isPath_of_parse h
    rw [String.toList_append] at hpath
    obtain ⟨hlocation, houtput, haxis⟩ := hpath.location_of_text
    use path.steps, hlocation
    rw [← houtput, ← haxis]
  · rintro ⟨steps, hlocation, rfl⟩
    apply hlocation.parse_function (fun _ => .descendant) .text
    rfl

end PageModel.XPath
