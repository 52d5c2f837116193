import PageModel.Proofs.XPath.Cursor.Agreement
import PageModel.Proofs.XPath.Reading.Path

/-!
# Reading predicates by a cursor

What a round of reading predicates is to read is told apart from the rounds that follow it
(`readPredicateRound`). A round that reads a predicate takes away some of the text, so the rounds come to
an end, with the predicates that are read when nobody counts bytes (`agrees_predicates`).
-/

namespace PageModel.XPath.Cursor

variable {source r : List Char}

/-! ### Predicates -/

/-- After an at sign the cursor comes to the predicate about an attribute that is to be read. -/
theorem agrees_attrPredicate :
  Agrees source (attrPredicate source) r (readAttrPredicate r)
  := by
  rw [attrPredicate, readAttrPredicate]
  apply (agrees_name _).bind
  · intro e he
    rw [he]
  · intro name r₁ he
    rw [he]
    apply agrees_skipSpace.bind_ok
    simp only
    split
    · next r₂ hr₂ =>
      rw [hr₂]
      apply (agrees_eat_append ['!', '='] r₂).bind_ok
      apply agrees_skipSpace.bind_ok
      apply agrees_literal.bind
      · intro e he
        rw [he]
      · intro value r₃ he
        rw [he]
        apply agrees_pure
    · next r₂ hr₂ =>
      rw [hr₂]
      -- The sign of two characters is tried first; the text starts with its second one.
      apply (agrees_eat_of_ne _).bind_ok
      · apply (agrees_eat_append ['='] r₂).bind_ok
        apply agrees_skipSpace.bind_ok
        apply agrees_literal.bind
        · intro e he
          rw [he]
        · intro value r₃ he
          rw [he]
          apply agrees_pure
      · rintro r' ⟨⟩
    · next hdiffers hequals =>
      apply (agrees_eat_of_ne hdiffers).bind_ok
      apply (agrees_eat_of_ne hequals).bind_ok
      apply agrees_pure

/-- The cursor comes to the arguments of a function, or to the sign that is missing among them. -/
theorem agrees_arguments :
  Agrees source (arguments source) r (readArguments r)
  := by
  rw [arguments, readArguments]
  apply agrees_skipSpace.bind_ok
  split
  · next r₁ hr₁ =>
    rw [hr₁]
    apply (agrees_expect_append ['('] _ r₁).bind_ok
    apply agrees_skipSpace.bind_ok
    split
    · next r₂ hr₂ =>
      rw [hr₂]
      apply (agrees_expect_append ['@'] _ r₂).bind_ok
      apply (agrees_name _).bind
      · intro e he
        rw [he]
      · intro name r₃ he
        rw [he]
        apply agrees_skipSpace.bind_ok
        simp only
        split
        · next r₄ hr₄ =>
          rw [hr₄]
          apply (agrees_expect_append [','] _ r₄).bind_ok
          apply agrees_skipSpace.bind_ok
          apply agrees_literal.bind
          · intro e he
            rw [he]
          · intro value r₅ he
            rw [he]
            apply agrees_skipSpace.bind_ok
            simp only
            split
            · next r₆ hr₆ =>
              rw [hr₆]
              apply (agrees_expect_append [')'] _ r₆).bind_ok
              apply agrees_pure
            · next hne => apply (agrees_expect_of_ne _ hne).bind_error
        · next hne => apply (agrees_expect_of_ne _ hne).bind_error
    · next hne => apply (agrees_expect_of_ne _ hne).bind_error
  · next hne => apply (agrees_expect_of_ne _ hne).bind_error

theorem agrees_functionPredicate :
  Agrees source (functionPredicate source) r (readFunctionPredicate r)
  := by
  rw [functionPredicate, readFunctionPredicate]
  apply (agrees_name _).bind
  · intro e he
    rw [he]
  · intro function r₁ he
    rw [he]
    simp only
    cases functionTest? function with
    | none => apply agrees_fail
    | some test =>
        apply agrees_arguments.bind
        · intro e he
          rw [he]
        · intro a r₂ he
          rw [he]
          apply agrees_pure

theorem ne_append_of_dropPrefix? {sign : List Char} (h : dropPrefix? sign r = none) :
  ∀ r', r ≠ sign ++ r'
  := by
  rintro r' rfl
  rw [dropPrefix?_append] at h
  cases h

/-- The cursor comes to the predicate that is to be read, and is left after it, or comes to its fault. -/
theorem agrees_predicate :
  Agrees source (predicate source) r (readPredicate r)
  := by
  have hnumber : Agrees source (number? source) r _ := agrees_number?
  unfold predicate readPredicate
  split
  · next n r₁ hn =>
    rw [hn] at hnumber
    apply hnumber.bind_ok
    simp only
    split
    · apply agrees_fail
    · apply agrees_pure
  · next hn =>
    rw [hn] at hnumber
    apply hnumber.bind_ok
    simp only
    split
    · next r₁ hlast =>
      obtain rfl := eq_append_of_dropPrefix? hlast
      apply (agrees_eat_append "last()".toList r₁).bind_ok
      apply agrees_pure
    · next hlast =>
      apply (agrees_eat_of_ne (ne_append_of_dropPrefix? hlast)).bind_ok
      simp only [Bool.false_eq_true, if_false]
      split
      · next r₁ =>
        apply (agrees_eat_append ['@'] r₁).bind_ok
        apply agrees_attrPredicate
      · next hat =>
        apply (agrees_eat_of_ne hat).bind_ok
        apply agrees_functionPredicate

/-! ### Rounds of predicates -/

/-- What a round of reading predicates is to read. -/
def readPredicateRound (read : List Predicate) :
    List Char → Reading (List Predicate ⊕ List Predicate)
  | '[' :: r =>
      match readPredicate (Unicode.trimStart r) with
      | .error e => .error e
      | .ok (p, r) =>
          match Unicode.trimStart r with
          | ']' :: r => .ok (.inr (read ++ [p]), r)
          | r => .error (.expectedClosingBracket, r)
  | r => .ok (.inl read, r)

/-- A round of the cursor reads what a round is to read. -/
theorem agrees_predicateRound (read : List Predicate) (r : List Char) :
  Agrees source (predicateRound source read) r (readPredicateRound read r)
  := by
  unfold predicateRound readPredicateRound
  split
  · next r₁ =>
    apply (agrees_eat_append ['['] r₁).bind_ok
    apply agrees_skipSpace.bind_ok
    apply agrees_predicate.bind
    · intro e he
      rw [he]
    · intro p r₂ he
      rw [he]
      apply agrees_skipSpace.bind_ok
      simp only
      split
      · next r₃ hr₃ =>
        rw [hr₃]
        apply (agrees_expect_append [']'] _ r₃).bind_ok
        apply agrees_pure
      · next hne => apply (agrees_expect_of_ne _ hne).bind_error
  · next hne =>
    apply (agrees_eat_of_ne hne).bind_ok
    apply agrees_pure

theorem readPredicateRound_cons {r₁ r₂ : List Char} {p : Predicate} {read : List Predicate}
    (hp : readPredicate (Unicode.trimStart r) = .ok (p, r₁))
    (hc : Unicode.trimStart r₁ = ']' :: r₂) :
  readPredicateRound read ('[' :: r) = .ok (.inr (read ++ [p]), r₂)
  := by
  simp only [readPredicateRound, hp, hc]

/-- A round is followed by another after a predicate in brackets. -/
theorem exists_of_readPredicateRound_again {read read' : List Predicate} {rest : List Char}
    (h : readPredicateRound read r = .ok (.inr read', rest)) :
  ∃ p r₁ r₂, r = '[' :: r₁ ∧ readPredicate (Unicode.trimStart r₁) = .ok (p, r₂) ∧
    Unicode.trimStart r₂ = ']' :: rest ∧ read' = read ++ [p]
  := by
  unfold readPredicateRound at h
  split at h
  · next r₁ =>
    split at h
    · cases h
    · next p r₂ hp =>
      split at h
      · next r₃ hr₃ =>
        cases h
        exact ⟨p, r₁, r₂, rfl, hp, hr₃, rfl⟩
      · cases h
  · cases h

/-- A round that is followed by another takes away the brackets of a predicate at least. -/
theorem takesAway_readPredicateRound :
  TakesAway readPredicateRound
  := by
  intro read r read' rest h
  obtain ⟨p, r₁, r₂, rfl, hp, hrest, -⟩ := exists_of_readPredicateRound_again h
  obtain ⟨text, space₂, -, -, htrim⟩ := readPredicate_sound hp
  obtain ⟨space₁, -, rfl⟩ := exists_space htrim
  obtain ⟨space₃, -, rfl⟩ := exists_space hrest
  use '[' :: (space₁ ++ text ++ space₂ ++ space₃ ++ [']'])
  constructor
  · apply List.cons_ne_nil
  · simp only [List.append_assoc, List.cons_append, List.nil_append]

theorem progresses_predicateRound (source : List Char) (read : List Predicate) :
  Progresses source (predicateRound source read)
  := progresses_of_takesAway agrees_predicateRound takesAway_readPredicateRound read

/-- The predicates that are to be read in all, after those that have been read. -/
def readMorePredicates (read : List Predicate) (cs : List Char) : Reading (List Predicate) :=
  (readPredicates cs).map fun (ps, rest) => (read ++ ps, rest)

/-- What is to be read in all is what a round is to read and then, unless that round was the last, what
the rounds after it are. -/
theorem inRounds_readMorePredicates :
  InRounds readPredicateRound readMorePredicates
  := by
  intro read cs
  rw [readMorePredicates]
  fun_cases readPredicates cs with
  | case1 r e he =>
      rw [readPredicateRound, he]
      rfl
  | case2 r p r₁ hp r₂ hc _ e he =>
      rw [readPredicateRound_cons hp hc]
      simp only [readMorePredicates, he]
      rfl
  | case3 r p r₁ hp r₂ hc _ ps rest hps =>
      rw [readPredicateRound_cons hp hc]
      simp only [readMorePredicates, hps, Except.map, List.append_assoc, List.singleton_append]
  | case4 r p r₁ hp hne =>
      rw [readPredicateRound, hp]
      simp only
      rfl
  | case5 cs hne =>
      have hround : readPredicateRound read cs = .ok (.inl read, cs) := by
        unfold readPredicateRound
        split
        · next r => exact absurd rfl (hne r)
        · rfl
      rw [hround]
      simp only [Except.map, List.append_nil]

/-- The rounds of the cursor come to an end with the predicates that are to be read. -/
theorem agrees_predicates :
  Agrees source (predicates source) r (readPredicates r)
  := by
  have hmap : readMorePredicates [] r = readPredicates r := by
    rw [readMorePredicates]
    cases readPredicates r <;> rfl
  rw [← hmap]
  apply agrees_rounds agrees_predicateRound takesAway_readPredicateRound
    inRounds_readMorePredicates

end PageModel.XPath.Cursor
