import PageModel.Proofs.XPath.Reading.Predicate

/-!
# Reading paths

A text denotes a path in the grammar if and only if it is read as that path. So no text denotes two
paths, although the rules do not say how names are told from what follows them (`IsPath.unique`).
-/

namespace PageModel.XPath

/-! ### Predicates in brackets -/

/-- What is read as predicates is predicates in brackets, one after the other. -/
theorem readPredicates_sound {cs rest : List Char} {ps : List Predicate}
    (h : readPredicates cs = .ok (ps, rest)) :
  ∃ text, IsPredicates text ps ∧ cs = text ++ rest
  := by
  fun_induction readPredicates cs generalizing ps with
  | case1 => cases h
  | case2 => cases h
  | case3 r p r₁ hp r₂ hc _ ps' rest' hr ih =>
      cases h
      obtain ⟨text, space₂, htext, hspace₂, hrest⟩ := readPredicate_sound hp
      obtain ⟨space₁, hspace₁, rfl⟩ := exists_space hrest
      obtain ⟨space₃, hspace₃, rfl⟩ := exists_space hc
      obtain ⟨texts, htexts, rfl⟩ := ih hr
      use ['['] ++ space₁ ++ text ++ (space₂ ++ space₃) ++ [']'] ++ texts
      constructor
      · exact .cons hspace₁ htext (hspace₂.append hspace₃) htexts
      · simp only [List.append_assoc, List.cons_append, List.nil_append]
  | case4 => cases h
  | case5 =>
      cases h
      exact ⟨[], .nil, rfl⟩

theorem readPredicates_of_head?_ne {cs : List Char} (h : cs.head? ≠ some '[') :
  readPredicates cs = .ok ([], cs)
  := by
  unfold readPredicates
  split
  · exact absurd rfl h
  · rfl

/-- A predicate in brackets is read before the predicates that follow it. -/
theorem readPredicates_cons {r r₁ r₂ rest : List Char} {p : Predicate} {ps : List Predicate}
    (hp : readPredicate (Unicode.trimStart r) = .ok (p, r₁))
    (hc : Unicode.trimStart r₁ = ']' :: r₂) (hps : readPredicates r₂ = .ok (ps, rest)) :
  readPredicates ('[' :: r) = .ok (p :: ps, rest)
  := by
  rw [readPredicates]
  split
  · next e he =>
    rw [hp] at he
    cases he
  · next p' r₁' hp' =>
    rw [hp] at hp'
    cases hp'
    split
    · next r₂' hc' =>
      rw [hc] at hc'
      cases hc'
      rw [hps]
    · next hc' => exact absurd hc (hc' r₂)

/-- Predicates in brackets are read, all of them, where no further bracket follows. -/
theorem readPredicates_complete {text rest : List Char} {ps : List Predicate}
    (h : IsPredicates text ps) (hrest : rest.head? ≠ some '[') :
  readPredicates (text ++ rest) = .ok (ps, rest)
  := by
  induction h with
  | nil => exact readPredicates_of_head?_ne hrest
  | @cons space text space' texts p ps hspace htext hspace' _ ih =>
      obtain ⟨r, hread, htrim⟩ := readPredicate_complete htext hspace' (texts ++ rest)
      have hstart : Unicode.trimStart (space ++ (text ++ (space' ++ ']' :: (texts ++ rest))))
          = text ++ (space' ++ ']' :: (texts ++ rest)) :=
        trimStart_space hspace (htext.startsOutside_isBlank _)
      simp only [List.append_assoc, List.cons_append, List.nil_append]
      apply readPredicates_cons ?_ htrim ih
      rw [hstart, hread]

/-! ### Slashes and ends -/

/-- What is read as an axis is the slashes that stand for it. -/
theorem readAxis_sound {isFirst : Bool} {cs rest : List Char} {axis : Axis}
    (h : readAxis isFirst cs = some (axis, rest)) :
  ∃ slashes, IsAxis isFirst slashes axis ∧ cs = slashes ++ rest
  := by
  unfold readAxis at h
  split at h
  · cases h
    exact ⟨['/', '/'], .descendant, rfl⟩
  · cases h
    exact ⟨['/'], .child, rfl⟩
  · cases isFirst with
    | true =>
        cases h
        exact ⟨[], .omitted, rfl⟩
    | false => cases h

/-- The slashes of an axis are read where no further one follows. -/
theorem readAxis_complete {isFirst : Bool} {slashes rest : List Char} {axis : Axis}
    (h : IsAxis isFirst slashes axis) (hrest : rest.head? ≠ some '/') :
  readAxis isFirst (slashes ++ rest) = some (axis, rest)
  := by
  cases rest with
  | nil => cases h <;> rfl
  | cons c rest =>
      have hc : c ≠ '/' := fun hc => hrest (congrArg some hc)
      cases h with
      | descendant => rfl
      | child => simp [readAxis, hc]
      | omitted => simp [readAxis, hc]

/-- Where a text is taken for the end of a path, only blanks are left of it. -/
theorem readEnd_sound {path path' : Path} {cs : List Char} (h : readEnd path cs = .ok path') :
  IsSpace cs ∧ path' = path
  := by
  unfold readEnd at h
  split at h
  · next htrim =>
    obtain ⟨space, hspace, rfl⟩ := exists_space htrim
    cases h
    rw [List.append_nil]
    exact ⟨hspace, rfl⟩
  · cases h

theorem readEnd_complete {path : Path} {cs : List Char} (h : IsSpace cs) :
  readEnd path cs = .ok path
  := by
  have htrim := trimStart_space h (startsOutside_nil _)
  rw [List.append_nil] at htrim
  rw [readEnd, htrim]

/-! ### One part -/

theorem PartStart.of_eq_attr {cs r : List Char} (h : PartStart.of cs = .attr r) :
  cs = '@' :: r
  := by
  unfold PartStart.of at h
  split at h <;> cases h
  rfl

theorem PartStart.of_eq_wildcard {cs r : List Char} (h : PartStart.of cs = .wildcard r) :
  cs = '*' :: r
  := by
  unfold PartStart.of at h
  split at h <;> cases h
  rfl

theorem PartStart.of_eq_named {cs r : List Char} (h : PartStart.of cs = .named r) :
  cs = r
  := by
  unfold PartStart.of at h
  split at h <;> cases h
  rfl

/-- A name that is found in the table of functions is the name of one. -/
theorem isOutputFunction_of_functionOutput? {run : List Char} {output : Output}
    (h : functionOutput? (String.ofList run) = some output) :
  IsOutputFunction run output
  := by
  unfold functionOutput? at h
  split at h <;> cases h <;> next hrun =>
    obtain rfl := eq_toList_of_ofList_eq hrun
    constructor

theorem IsOutputFunction.isNameText {run : List Char} {output : Output}
    (h : IsOutputFunction run output) :
  IsNameText run
  := by
  cases h <;> exact isNameText_of_all (by decide) (by decide)

theorem IsOutputFunction.functionOutput? {run : List Char} {output : Output}
    (h : IsOutputFunction run output) :
  functionOutput? (String.ofList run) = some output
  := by
  cases h <;> rfl

/-- What is read as a part is one: a step with its predicates, or an output. -/
theorem readPart_sound {isFirst : Bool} {cs rest : List Char} {part : Part}
    (h : readPart isFirst cs = .ok (part, rest)) :
  ∃ text, IsPart isFirst text part ∧ cs = text ++ rest
  := by
  unfold readPart at h
  split at h
  · cases h
  · next axis r ha =>
    obtain ⟨slashes, hslashes, rfl⟩ := readAxis_sound ha
    split at h
    · next hs =>
      obtain rfl := PartStart.of_eq_attr hs
      split at h
      · cases h
      · next hn =>
        obtain ⟨run, hrun, rfl, rfl⟩ := readName_sound hn
        cases h
        use slashes ++ '@' :: run, .terminal hslashes (.attr hrun)
        simp only [List.append_assoc, List.cons_append]
    · next hs =>
      obtain rfl := PartStart.of_eq_wildcard hs
      split at h
      · cases h
      · next hp =>
        obtain ⟨texts, htexts, rfl⟩ := readPredicates_sound hp
        cases h
        use slashes ++ ['*'] ++ texts, .step hslashes .any htexts
        simp only [List.append_assoc, List.cons_append, List.nil_append]
    · next hs =>
      obtain rfl := PartStart.of_eq_named hs
      split at h
      · cases h
      · next hn =>
        obtain ⟨run, hrun, rfl, rfl⟩ := readName_sound hn
        split at h
        · next hd =>
          obtain rfl := eq_append_of_dropPrefix? hd
          split at h
          · cases h
          · next ho =>
            cases h
            use slashes ++ (run ++ "()".toList)
            refine ⟨.terminal hslashes (.function (isOutputFunction_of_functionOutput? ho)), ?_⟩
            simp only [List.append_assoc]
        · split at h
          · cases h
          · next hp =>
            obtain ⟨texts, htexts, rfl⟩ := readPredicates_sound hp
            cases h
            use slashes ++ run ++ texts, .step hslashes (.tag hrun) htexts
            simp only [List.append_assoc]

/-- Whether a character would continue a part: the name in it, its predicates, or the parentheses
after a name. -/
def continuesPart (c : Char) : Bool :=
  isNameChar c || c = '(' || c = '['

theorem continuesPart_of_isBlank (c : Char) (h : Unicode.isBlank c = true) :
  continuesPart c = false
  := by
  simp only [continuesPart, isNameChar_of_isBlank c h, Bool.false_or, Bool.or_eq_false_iff,
    decide_eq_false_iff_not]
  constructor <;> rintro rfl <;> exact absurd h (by decide)

section Complete

variable {isFirst : Bool} {slashes text texts run rest : List Char} {axis : Axis}
  {ps : List Predicate}

theorem startsOutside_isNameChar (h : StartsOutside continuesPart rest) :
  StartsOutside isNameChar rest
  := by
  intro c hc
  have := h c hc
  simp only [continuesPart, Bool.or_eq_false_iff] at this
  exact this.1.1

theorem head?_ne_of_startsOutside {p : Char → Bool} {c : Char} (h : StartsOutside p rest)
    (hc : p c = true) :
  rest.head? ≠ some c
  := by
  intro hhead
  have := h c hhead
  rw [hc] at this
  cases this

/-- A name is not followed by parentheses where neither its predicates nor what follows them is. -/
theorem dropPrefix?_predicates (htexts : IsPredicates texts ps)
    (hrest : StartsOutside continuesPart rest) :
  dropPrefix? "()".toList (texts ++ rest) = none
  := by
  have hparenthesis := head?_ne_of_startsOutside (c := '(') hrest (by decide)
  cases htexts with
  | nil =>
      cases rest with
      | nil => rfl
      | cons c rest =>
          have hc : ¬ '(' = c := fun hc => hparenthesis (congrArg some hc.symm)
          simp [dropPrefix?, hc]
  | cons => rfl

theorem IsPredicates.startsOutside_isNameChar (htexts : IsPredicates texts ps)
    (hrest : StartsOutside continuesPart rest) :
  StartsOutside isNameChar (texts ++ rest)
  := by
  cases htexts with
  | nil => exact XPath.startsOutside_isNameChar hrest
  | cons => exact startsOutside_cons (by decide)

/-- A name is told from an attribute and a wildcard by its first character. -/
theorem PartStart.of_isNameText (h : IsNameText run) (rest : List Char) :
  PartStart.of (run ++ rest) = .named (run ++ rest)
  := by
  obtain ⟨hne, hchars, -⟩ := h
  cases run with
  | nil => exact absurd rfl hne
  | cons c run =>
      have hc := hchars c List.mem_cons_self
      unfold PartStart.of
      split
      · next hat =>
        cases hat
        exact absurd hc (by decide)
      · next hat =>
        cases hat
        exact absurd hc (by decide)
      · rfl

theorem IsNameText.head?_ne_slash (h : IsNameText run) (rest : List Char) :
  (run ++ rest).head? ≠ some '/'
  := by
  obtain ⟨hne, hchars, -⟩ := h
  cases run with
  | nil => exact absurd rfl hne
  | cons c run =>
      intro hhead
      obtain rfl := Option.some_inj.1 hhead
      exact absurd (hchars '/' List.mem_cons_self) (by decide)

/-- A step with a name is read with its predicates. -/
theorem readPart_tag (hslashes : IsAxis isFirst slashes axis) (hrun : IsNameText run)
    (htexts : IsPredicates texts ps) (hrest : StartsOutside continuesPart rest) :
  readPart isFirst (slashes ++ (run ++ (texts ++ rest)))
    = .ok (.step ⟨axis, .tag (Unicode.lowercaseText (String.ofList run)), ps⟩, rest)
  := by
  have hbracket := head?_ne_of_startsOutside (c := '[') hrest (by decide)
  simp only [readPart, readAxis_complete hslashes (hrun.head?_ne_slash _),
    PartStart.of_isNameText hrun, readName_complete _ hrun (htexts.startsOutside_isNameChar hrest),
    dropPrefix?_predicates htexts hrest, readPredicates_complete htexts hbracket]

/-- A step with a wildcard is read with its predicates. -/
theorem readPart_wildcard (hslashes : IsAxis isFirst slashes axis)
    (htexts : IsPredicates texts ps) (hrest : StartsOutside continuesPart rest) :
  readPart isFirst (slashes ++ '*' :: (texts ++ rest)) = .ok (.step ⟨axis, .any, ps⟩, rest)
  := by
  have hbracket := head?_ne_of_startsOutside (c := '[') hrest (by decide)
  have hslash : ('*' :: (texts ++ rest)).head? ≠ some '/' := by
    rw [List.head?_cons]
    decide
  simp only [readPart, readAxis_complete hslashes hslash, PartStart.of,
    readPredicates_complete htexts hbracket]

/-- An attribute is read as an output. -/
theorem readPart_attr (hslashes : IsAxis isFirst slashes axis) (hrun : IsNameText run)
    (hrest : StartsOutside continuesPart rest) :
  readPart isFirst (slashes ++ '@' :: (run ++ rest))
    = .ok (.terminal (.attr (String.ofList run)) axis, rest)
  := by
  have hslash : ('@' :: (run ++ rest)).head? ≠ some '/' := by
    rw [List.head?_cons]
    decide
  simp only [readPart, readAxis_complete hslashes hslash, PartStart.of,
    readName_complete _ hrun (startsOutside_isNameChar hrest)]

/-- A function is read as an output. -/
theorem readPart_function {output : Output} (hslashes : IsAxis isFirst slashes axis)
    (hrun : IsOutputFunction run output) (rest : List Char) :
  readPart isFirst (slashes ++ (run ++ ("()".toList ++ rest))) = .ok (.terminal output axis, rest)
  := by
  have hname : StartsOutside isNameChar ("()".toList ++ rest) := startsOutside_cons (by decide)
  simp only [readPart, readAxis_complete hslashes (hrun.isNameText.head?_ne_slash _),
    PartStart.of_isNameText hrun.isNameText, readName_complete _ hrun.isNameText hname,
    dropPrefix?_append, hrun.functionOutput?]

/-- A part is read whole where nothing follows that would continue it. -/
theorem readPart_complete {part : Part} (h : IsPart isFirst text part)
    (hrest : StartsOutside continuesPart rest) :
  readPart isFirst (text ++ rest) = .ok (part, rest)
  := by
  cases h with
  | step hslashes htest htexts =>
      simp only [List.append_assoc]
      cases htest with
      | any => exact readPart_wildcard hslashes htexts hrest
      | tag hrun => exact readPart_tag hslashes hrun htexts hrest
  | terminal hslashes hterminal =>
      simp only [List.append_assoc]
      cases hterminal with
      | attr hrun => exact readPart_attr hslashes hrun hrest
      | function hfunction =>
          rw [List.append_assoc]
          exact readPart_function hslashes hfunction rest

end Complete

/-! ### All parts -/

/-- A path with steps before its own. -/
def Path.after (p : Path) (steps : List Step) : Path :=
  { p with steps := steps ++ p.steps }

theorem Path.after_cons (p : Path) (steps : List Step) (step : Step) :
  (p.after (steps ++ [step])) = Path.after { p with steps := step :: p.steps } steps
  := by
  simp only [Path.after, List.append_assoc, List.cons_append, List.nil_append]

theorem isEmpty_append_step (steps : List Step) (step : Step) :
  (steps ++ [step]).isEmpty = false
  := by
  cases steps <;> rfl

/-- What is read as parts is parts of the grammar to the end of the text, or no part at all after steps
that have been read. -/
theorem readParts_sound {steps : List Step} {cs : List Char} {path : Path}
    (h : readParts steps cs = .ok path) :
  (cs = [] ∧ path = ⟨steps, .outerMarkup, .child⟩) ∨
    ∃ rest, IsParts steps.isEmpty cs rest ∧ path = rest.after steps
  := by
  fun_induction readParts steps cs with
  | case1 steps =>
      cases h
      exact .inl ⟨rfl, rfl⟩
  | case2 => cases h
  | case3 steps cs _ output axis r hpart =>
      right
      obtain ⟨text, htext, rfl⟩ := readPart_sound hpart
      obtain ⟨hspace, rfl⟩ := readEnd_sound h
      use ⟨[], output, axis⟩, .terminal htext hspace
      rw [Path.after, List.append_nil]
  | case4 steps cs _ step r hpart _ ih =>
      right
      obtain ⟨text, htext, rfl⟩ := readPart_sound hpart
      obtain ⟨space, hspace, hr⟩ := exists_space (rfl : Unicode.trimStart r = _)
      rcases ih h with ⟨hnil, rfl⟩ | ⟨rest, hrest, rfl⟩
      · rw [hnil, List.append_nil] at hr
        rw [hr]
        exact ⟨⟨[step], .outerMarkup, .child⟩, .last htext hspace, rfl⟩
      · rw [isEmpty_append_step] at hrest
        use { rest with steps := step :: rest.steps }
        constructor
        · rw [hr, ← List.append_assoc]
          exact .step htext hspace hrest
        · exact Path.after_cons rest steps step

/-- Nothing is read as a part from an empty text. -/
theorem ne_nil_of_readPart {isFirst : Bool} {cs r : List Char} {part : Part}
    (h : readPart isFirst cs = .ok (part, r)) :
  cs ≠ []
  := by
  rintro rfl
  cases isFirst <;> cases h

theorem IsPart.ne_nil {isFirst : Bool} {text : List Char} {part : Part}
    (h : IsPart isFirst text part) :
  text ≠ []
  := by
  have := ne_nil_of_readPart (readPart_complete h (startsOutside_nil _))
  rwa [List.append_nil] at this

theorem IsParts.ne_nil {isFirst : Bool} {cs : List Char} {path : Path}
    (h : IsParts isFirst cs path) :
  cs ≠ []
  := by
  cases h with
  | terminal htext _ => exact List.append_ne_nil_of_left_ne_nil htext.ne_nil _
  | last htext _ => exact List.append_ne_nil_of_left_ne_nil htext.ne_nil _
  | step htext _ _ =>
      rw [List.append_assoc]
      exact List.append_ne_nil_of_left_ne_nil htext.ne_nil _

/-- A part that is not the first one starts with a slash. -/
theorem IsPart.startsOutside {p : Char → Bool} (hp : p '/' = false) {text : List Char} {part : Part}
    (h : IsPart false text part) (rest : List Char) :
  StartsOutside p (text ++ rest)
  := by
  cases h with
  | step hslashes _ _ => cases hslashes <;> exact startsOutside_cons hp
  | terminal hslashes _ => cases hslashes <;> exact startsOutside_cons hp

theorem IsParts.startsOutside {p : Char → Bool} (hp : p '/' = false) {cs : List Char} {path : Path}
    (h : IsParts false cs path) :
  StartsOutside p cs
  := by
  cases h with
  | terminal htext _ => exact htext.startsOutside hp _
  | last htext _ => exact htext.startsOutside hp _
  | step htext _ _ =>
      rw [List.append_assoc]
      exact htext.startsOutside hp _

theorem IsPart.startsOutside_isBlank {isFirst : Bool} {text : List Char} {part : Part}
    (h : IsPart isFirst text part) (rest : List Char) :
  StartsOutside Unicode.isBlank (text ++ rest)
  := by
  cases h with
  | step hslashes htest _ =>
      cases hslashes with
      | descendant => exact startsOutside_cons (by decide)
      | child => exact startsOutside_cons (by decide)
      | omitted =>
          cases htest with
          | any => exact startsOutside_cons (by decide)
          | tag hrun =>
              simp only [List.append_assoc, List.nil_append]
              exact hrun.startsOutside_isBlank _
  | terminal hslashes hterminal =>
      cases hslashes with
      | descendant => exact startsOutside_cons (by decide)
      | child => exact startsOutside_cons (by decide)
      | omitted =>
          cases hterminal with
          | attr => exact startsOutside_cons (by decide)
          | function hrun =>
              simp only [List.append_assoc, List.nil_append]
              exact hrun.isNameText.startsOutside_isBlank _

theorem IsParts.startsOutside_isBlank {isFirst : Bool} {cs : List Char} {path : Path}
    (h : IsParts isFirst cs path) :
  StartsOutside Unicode.isBlank cs
  := by
  cases h with
  | terminal htext _ => exact htext.startsOutside_isBlank _
  | last htext _ => exact htext.startsOutside_isBlank _
  | step htext _ _ =>
      rw [List.append_assoc]
      exact htext.startsOutside_isBlank _

/-- Where an output is read, the text has to end. -/
theorem readParts_terminal {steps : List Step} {cs r : List Char} {output : Output} {axis : Axis}
    (hpart : readPart steps.isEmpty cs = .ok (.terminal output axis, r)) :
  readParts steps cs = readEnd ⟨steps, output, axis⟩ r
  := by
  rw [readParts, if_neg (ne_nil_of_readPart hpart)]
  split
  · next h =>
    rw [hpart] at h
    cases h
  · next h =>
    rw [hpart] at h
    cases h
    rfl
  · next h =>
    rw [hpart] at h
    cases h

/-- Where a step is read, the parts after it are read next. -/
theorem readParts_step {steps : List Step} {cs r : List Char} {step : Step}
    (hpart : readPart steps.isEmpty cs = .ok (.step step, r)) :
  readParts steps cs = readParts (steps ++ [step]) (Unicode.trimStart r)
  := by
  rw [readParts, if_neg (ne_nil_of_readPart hpart)]
  split
  · next h =>
    rw [hpart] at h
    cases h
  · next h =>
    rw [hpart] at h
    cases h
  · next h =>
    rw [hpart] at h
    cases h
    rfl

/-- Parts of the grammar are read as the path that they denote, after the steps that have been read. -/
theorem readParts_complete {isFirst : Bool} {cs : List Char} {path : Path}
    (h : IsParts isFirst cs path) {steps : List Step} (hsteps : steps.isEmpty = isFirst) :
  readParts steps cs = .ok (path.after steps)
  := by
  induction h generalizing steps with
  | @terminal isFirst text space output axis htext hspace =>
      subst hsteps
      have hend := startsOutside_space continuesPart_of_isBlank hspace (startsOutside_nil _)
      rw [List.append_nil] at hend
      rw [readParts_terminal (readPart_complete htext hend), readEnd_complete hspace, Path.after,
        List.append_nil]
  | @last isFirst text space step htext hspace =>
      subst hsteps
      have hend := startsOutside_space continuesPart_of_isBlank hspace (startsOutside_nil _)
      have htrim := trimStart_space hspace (startsOutside_nil _)
      rw [List.append_nil] at hend htrim
      rw [readParts_step (readPart_complete htext hend), htrim, readParts, if_pos rfl]
      rfl
  | @step isFirst text space rest step path htext hspace hrest ih =>
      subst hsteps
      have hend := startsOutside_space continuesPart_of_isBlank hspace
        (hrest.startsOutside (p := continuesPart) (by decide))
      have htrim := trimStart_space hspace (hrest.startsOutside (p := Unicode.isBlank) (by decide))
      rw [List.append_assoc]
      rw [readParts_step (readPart_complete htext hend), htrim,
        ih (isEmpty_append_step _ _), Path.after_cons]

/-! ### Paths -/

/-- What is read as a path denotes it. -/
theorem isPath_of_parse {expression : String} {path : Path}
    (h : Path.parse expression = .ok path) :
  IsPath expression.toList path
  := by
  obtain ⟨space, hspace, hsource⟩ := exists_space (rfl : Unicode.trimStart expression.toList = _)
  unfold Path.parse at h
  simp only at h
  split at h
  · next path' hread =>
    cases h
    split at hread
    · cases hread
    · next hne =>
      rw [hsource]
      rcases readParts_sound hread with ⟨hnil, -⟩ | ⟨rest, hrest, rfl⟩
      · rw [hnil] at hne
        exact absurd rfl hne
      · exact .parts hspace hrest
  · cases h

/-- A text that denotes a path is read as that path. -/
theorem parse_of_isPath {expression : String} {path : Path} (h : IsPath expression.toList path) :
  Path.parse expression = .ok path
  := by
  generalize hsource : expression.toList = source at h
  obtain ⟨hspace, hparts⟩ := h
  have htrim := trimStart_space hspace hparts.startsOutside_isBlank
  have hne := List.isEmpty_eq_false_iff.2 hparts.ne_nil
  have hread : readParts [] _ = .ok (path.after []) := readParts_complete hparts rfl
  simp only [Path.parse, hsource, htrim, hne, hread, Bool.false_eq_true, if_false]
  rfl

/-- A text is read as a path if and only if it denotes that path. -/
theorem parse_eq_ok_iff_isPath (expression : String) (path : Path) :
  Path.parse expression = .ok path ↔ IsPath expression.toList path
  := ⟨isPath_of_parse, parse_of_isPath⟩

/-- A text denotes one path at most. -/
theorem IsPath.unique {cs : List Char} {path path' : Path} (h : IsPath cs path)
    (h' : IsPath cs path') :
  path = path'
  := by
  rw [← @String.toList_ofList cs] at h h'
  exact Except.ok.inj ((parse_of_isPath h).symm.trans (parse_of_isPath h'))

end PageModel.XPath
