import PageModel.Proofs.XPath.Cursor.Predicate

/-!
# Reading paths by a cursor

What a round of reading parts is to read is told apart as well (`readPartRound`), and a round that
reads a step takes away some of the text. A path that is read by a cursor from the start of a text is
the path that the text denotes, and a fault is at the place where the cursor is left (`runFrom_path`).
-/

namespace PageModel.XPath.Cursor

variable {source r : List Char}

/-! ### Parts -/

/-- Two slashes are tried before one, as they start with it. -/
theorem agrees_axis (isFirst : Bool) :
  Agrees source (axis source isFirst) r
    (match readAxis isFirst r with
      | none => .error (.expectedSlash, r)
      | some a => .ok a)
  := by
  fun_cases readAxis isFirst r with
  | case1 r₁ =>
      apply (agrees_eat_append ['/', '/'] r₁).bind_ok
      apply agrees_pure
  | case2 r₁ hne =>
      apply (agrees_eat_of_ne _).bind_ok
      · apply (agrees_eat_append ['/'] r₁).bind_ok
        apply agrees_pure
      · rintro r' ⟨⟩
        apply hne r' rfl
  | case3 _ hdouble hsingle hfirst =>
      apply (agrees_eat_of_ne hdouble).bind_ok
      apply (agrees_eat_of_ne hsingle).bind_ok
      rw [if_neg Bool.false_ne_true, if_pos hfirst]
      apply agrees_pure
  | case4 _ hdouble hsingle hfirst =>
      apply (agrees_eat_of_ne hdouble).bind_ok
      apply (agrees_eat_of_ne hsingle).bind_ok
      rw [if_neg Bool.false_ne_true, if_neg hfirst]
      apply agrees_fail

theorem agrees_step (axis : Axis) (test : NodeTest) :
  Agrees source (step source axis test) r
    (match readPredicates r with
      | .error e => .error e
      | .ok (ps, r) => .ok (.step ⟨axis, test, ps⟩, r))
  := by
  apply agrees_predicates.bind
  · intro e he
    rw [he]
  · intro ps r' he
    rw [he]
    apply agrees_pure

/-- The cursor comes to the part that is to be read, and is left after it, or comes to its fault. -/
theorem agrees_part (isFirst : Bool) :
  Agrees source (part source isFirst) r (readPart isFirst r)
  := by
  have haxis : Agrees source (axis source isFirst) r _ := agrees_axis isFirst
  unfold part readPart
  split
  · next hnone =>
    rw [hnone] at haxis
    apply haxis.bind_error
  · next axis r₁ hsome =>
    rw [hsome] at haxis
    apply haxis.bind_ok
    split
    · next r₂ hstart =>
      obtain rfl := PartStart.of_eq_attr hstart
      apply (agrees_eat_append ['@'] r₂).bind_ok
      apply (agrees_name _).bind
      · intro e he
        rw [he]
      · intro name r₃ he
        rw [he]
        apply agrees_pure
    · next r₂ hstart =>
      obtain rfl := PartStart.of_eq_wildcard hstart
      apply (agrees_eat_of_ne _).bind_ok
      · apply (agrees_eat_append ['*'] r₂).bind_ok
        apply agrees_step
      · rintro r' ⟨⟩
    · next r₂ hstart =>
      obtain rfl := PartStart.of_eq_named hstart
      apply (agrees_eat_of_ne _).bind_ok
      · apply (agrees_eat_of_ne _).bind_ok
        · apply (agrees_name _).bind
          · intro e he
            rw [he]
          · intro name r₃ he
            rw [he]
            cases hparentheses : dropPrefix? "()".toList r₃ with
            | none =>
                simp only [hparentheses]
                apply (agrees_eat_of_ne (ne_append_of_dropPrefix? hparentheses)).bind_ok
                apply agrees_step
            | some r₄ =>
                simp only [hparentheses]
                obtain rfl := eq_append_of_dropPrefix? hparentheses
                apply (agrees_eat_append "()".toList r₄).bind_ok
                cases functionOutput? name with
                | none => apply agrees_fail
                | some output => apply agrees_pure
        · rintro r' rfl
          cases hstart
      · rintro r' rfl
        cases hstart

/-! ### Rounds of parts -/

/-- What is to be read after a part: white space, and nothing else after an output. -/
def readPartEnd (steps : List Step) : Part × List Char → Reading (Path ⊕ List Step)
  | (.step step, r) => .ok (.inr (steps ++ [step]), Unicode.trimStart r)
  | (.terminal output axis, r) =>
      match Unicode.trimStart r with
      | [] => .ok (.inl ⟨steps, output, axis⟩, [])
      | r => .error (.trailingInput, r)

/-- What a round of reading parts is to read. -/
def readPartRound (steps : List Step) (cs : List Char) : Reading (Path ⊕ List Step) :=
  if cs = [] then .ok (.inl ⟨steps, .outerMarkup, .child⟩, [])
  else
    match readPart steps.isEmpty cs with
    | .error e => .error e
    | .ok a => readPartEnd steps a

/-- The cursor comes to the end of the text, or to what stands there after white space. -/
theorem agrees_expectEnd :
  Agrees source (expectEnd source) r
    (match Unicode.trimStart r with
      | [] => .ok ((), [])
      | r => .error (.trailingInput, r))
  := by
  apply agrees_skipSpace.bind_ok
  apply agrees_atEnd.bind_ok
  cases Unicode.trimStart r with
  | nil => apply agrees_pure
  | cons c r => apply agrees_fail

/-- A round of the cursor reads what a round is to read. -/
theorem agrees_partRound (steps : List Step) (r : List Char) :
  Agrees source (partRound source steps) r (readPartRound steps r)
  := by
  apply agrees_atEnd.bind_ok
  cases r with
  | nil => apply agrees_pure
  | cons c cs =>
      rw [readPartRound, if_neg (List.cons_ne_nil c cs)]
      apply (agrees_part steps.isEmpty).bind
      · intro e he
        rw [he]
      · intro part r₁ he
        rw [he]
        cases part with
        | step step =>
            apply agrees_skipSpace.bind_ok
            apply agrees_pure
        | terminal output axis =>
            have hend : Agrees source (expectEnd source) r₁ _ := agrees_expectEnd
            simp only [readPartEnd]
            cases htrim : Unicode.trimStart r₁ with
            | nil =>
                rw [htrim] at hend
                apply hend.bind_ok
                apply agrees_pure
            | cons d r₂ =>
                rw [htrim] at hend
                apply hend.bind_error

/-- A round that is followed by another takes away a step, which is never empty. -/
theorem takesAway_readPartRound :
  TakesAway readPartRound
  := by
  intro steps r steps' rest h
  unfold readPartRound at h
  split at h
  · cases h
  · split at h
    · cases h
    · next part hpart =>
      obtain ⟨_ | ⟨output, axis⟩, r₁⟩ := part
      · cases h
        obtain ⟨text, htext, rfl⟩ := readPart_sound hpart
        obtain ⟨space, -, hspace⟩ := exists_space (Eq.refl (Unicode.trimStart r₁))
        use text ++ space
        constructor
        · intro hnil
          apply htext.ne_nil (List.append_eq_nil_iff.1 hnil).1
        · rw [List.append_assoc, ← hspace]
      · simp only [readPartEnd] at h
        split at h <;> cases h

theorem progresses_partRound (source : List Char) (steps : List Step) :
  Progresses source (partRound source steps)
  := progresses_of_takesAway agrees_partRound takesAway_readPartRound steps

/-- The path that is to be read in all, after the steps that have been read. -/
def readMoreParts (steps : List Step) (cs : List Char) : Reading Path :=
  (readParts steps cs).map fun p => (p, [])

/-- What is to be read in all is what a round is to read and then, unless that round was the last, what
the rounds after it are. -/
theorem inRounds_readMoreParts :
  InRounds readPartRound readMoreParts
  := by
  intro steps cs
  rw [readMoreParts, readParts, readPartRound]
  split
  · rfl
  · split
    · next e hpart =>
      rw [hpart]
      rfl
    · next output axis r hpart =>
      rw [hpart]
      simp only [readPartEnd, readEnd]
      cases Unicode.trimStart r <;> rfl
    · next step r hpart =>
      simp only [hpart]
      rfl

/-- The rounds of the cursor come to an end with the path that is to be read. -/
theorem agrees_parts :
  Agrees source (parts source) r (readMoreParts [] r)
  := agrees_rounds agrees_partRound takesAway_readPartRound inRounds_readMoreParts [] r

/-! ### Paths -/

/-- From the start of a text the cursor passes over white space, and then comes to the parts of the path.
-/
theorem agrees_path :
  Agrees source (path source) source
    ((if (Unicode.trimStart source).isEmpty then .error (.emptyExpression, [])
      else readParts [] (Unicode.trimStart source)).map fun p => (p, []))
  := by
  apply agrees_skipSpace.bind_ok
  apply agrees_atEnd.bind_ok
  cases Unicode.trimStart source with
  | nil => apply agrees_fail
  | cons c cs => apply agrees_parts

/-- Before a text the cursor is between characters. -/
theorem standsBefore_start (source : List Char) :
  StandsBefore source source ⟨0, []⟩
  := by
  constructor
  · use [], rfl
    rfl
  · rintro n ⟨⟩

/-- From the start of a text the cursor comes to the path that the text denotes, or to the place of the
fault, and is between characters all the time. -/
theorem runFrom_path (s : String) :
  ∃ c : Cursor, ((Path.parse s).mapError .fault, c) ∈ (path s.toList).runFrom ⟨0, []⟩ ∧
    (∀ f, Path.parse s = .error f → f.offset = c.pos) ∧
    ∀ n ∈ c.pos :: c.past, IsBoundary s.toList n
  := by
  have hpath := agrees_path ⟨0, []⟩ (standsBefore_start s.toList)
  unfold Path.parse
  simp only
  split
  · next p hread =>
    rw [hread] at hpath
    obtain ⟨c, hrun, hc⟩ := hpath
    use c, hrun
    constructor
    · rintro f ⟨⟩
    · apply hc.isBoundary
  · next reason rest hread =>
    rw [hread] at hpath
    obtain ⟨c, hrun, hc⟩ := hpath
    have hpos : byteSize s.toList - byteSize rest = c.pos := by
      rw [← hc.pos_add, Nat.add_sub_cancel_right]
    use c
    rw [hpos]
    use hrun
    constructor
    · rintro f ⟨⟩
      rfl
    · apply hc.isBoundary

end PageModel.XPath.Cursor
