import Mathlib.Data.List.Chain
import Mathlib.Data.List.TakeWhile
import PageModel.Unicode.Blank

/-!
# Trimmed and tidy texts

A trimmed text neither starts nor ends with white space, and in a tidy one white space is single spaces
besides. The words of a text, one space apart, are what is left of the trimmed text when every run of
white space is replaced by one space (`tidy_eq_collapse_trim`), and that is a tidy text, of which
nothing is left to replace.
-/

namespace PageModel.Unicode

variable {c : Char} {cs ds run : List Char}

/-! ### Runs of white space replaced -/

/-- A text with every run of white space replaced by one space, where the run ends. -/
def collapse : List Char → List Char
  | [] => []
  | c :: cs =>
      if isBlank c then
        if cs.head?.any isBlank then collapse cs else ' ' :: collapse cs
      else
        c :: collapse cs

/-- Texts that neither start nor end with white space. -/
structure IsTrimmed (cs : List Char) : Prop where
  first : ∀ c ∈ cs.head?, isBlank c = false
  last : ∀ c ∈ cs.getLast?, isBlank c = false

/-- Trimmed texts in which white space is spaces, no two of them next to each other. -/
structure IsTidy (cs : List Char) : Prop extends IsTrimmed cs where
  spaces : ∀ c ∈ cs, isBlank c = true → c = ' '
  apart : cs.IsChain fun c d => isBlank c = true → isBlank d = false

theorem collapse_cons_of_not_blank (h : isBlank c = false) :
  collapse (c :: cs) = c :: collapse cs
  := by
  rw [collapse, if_neg (Bool.eq_false_iff.1 h)]

theorem collapse_eq_nil_iff :
  collapse cs = [] ↔ cs = []
  := by
  constructor
  · intro h
    fun_induction collapse cs with
    | case1 => rfl
    | case2 c cs _ hnext ih =>
        rw [ih h] at hnext
        cases hnext
    | case3 => cases h
    | case4 => cases h
  · rintro rfl
    rfl

/-! ### Ends of texts -/

theorem first_dropWhile (cs : List Char) :
  ∀ c ∈ (cs.dropWhile isBlank).head?, isBlank c = false
  := by
  intro c hc
  have hfirst := List.head?_dropWhile_not isBlank cs
  rw [Option.mem_def.1 hc] at hfirst
  simpa using hfirst

theorem dropWhile_eq_self (h : ∀ c ∈ cs.head?, isBlank c = false) :
  cs.dropWhile isBlank = cs
  := by
  cases cs with
  | nil => rfl
  | cons c cs =>
      apply List.dropWhile_cons_of_neg
      apply Bool.eq_false_iff.1
      apply h c rfl

theorem any_head?_eq_false_iff :
  ¬ cs.head?.any isBlank = true ↔ ∀ c ∈ cs.head?, isBlank c = false
  := by
  cases cs with
  | nil => simp
  | cons c cs => simp

theorem last_of_cons (h : ∀ d ∈ (c :: ds).getLast?, isBlank d = false) :
  ∀ d ∈ ds.getLast?, isBlank d = false
  := by
  intro d hd
  apply h
  rw [Option.mem_def] at hd ⊢
  rw [List.getLast?_cons, hd]
  rfl

theorem last_cons (h : ∀ d ∈ ds.getLast?, isBlank d = false)
    (hc : ds = [] → isBlank c = false) :
  ∀ d ∈ (c :: ds).getLast?, isBlank d = false
  := by
  cases ds with
  | nil =>
      intro d hd
      obtain rfl := Option.some_inj.1 hd
      apply hc rfl
  | cons d ds =>
      rw [List.getLast?_cons_cons]
      exact h

/-! ### Trimming -/

theorem exists_append_trimEnd (cs : List Char) :
  ∃ run, (∀ c ∈ run, isBlank c = true) ∧ cs = trimEnd cs ++ run
  := by
  use (cs.reverse.takeWhile isBlank).reverse
  constructor
  · intro c hc
    apply List.mem_takeWhile_imp (List.mem_reverse.1 hc)
  · rw [trimEnd, ← List.reverse_append, List.takeWhile_append_dropWhile, List.reverse_reverse]

theorem isTrimmed_trim (cs : List Char) :
  IsTrimmed (trim cs)
  where
  first := by
    obtain ⟨run, -, hrun⟩ := exists_append_trimEnd (trimStart cs)
    intro c hc
    apply first_dropWhile cs
    rw [Option.mem_def] at hc ⊢
    change (trimStart cs).head? = some c
    rw [hrun, List.head?_append]
    change (trim cs).head?.or run.head? = some c
    rw [hc, Option.some_or]
  last := by
    rw [trim, trimEnd, List.getLast?_reverse]
    apply first_dropWhile

/-- Of a text that is all white space nothing is left. -/
theorem trim_eq_nil_iff :
  trim cs = [] ↔ ∀ c ∈ cs, isBlank c = true
  := by
  rw [← List.dropWhile_eq_nil_iff]
  constructor
  · intro h
    obtain ⟨run, hrun, heq⟩ := exists_append_trimEnd (trimStart cs)
    change trimStart cs = trim cs ++ run at heq
    rw [h, List.nil_append] at heq
    have hfirst := first_dropWhile cs
    change ∀ c ∈ (trimStart cs).head?, isBlank c = false at hfirst
    change trimStart cs = []
    rw [heq] at hfirst ⊢
    cases run with
    | nil => rfl
    | cons c run =>
        have hblank := hrun c List.mem_cons_self
        rw [hfirst c rfl] at hblank
        cases hblank
  · intro h
    rw [trim, trimStart, h]
    rfl

/-! ### Words -/

theorem wordsFrom_of_blank (h : ∀ c ∈ run, isBlank c = true) :
  wordsFrom [] run = []
  := by
  induction run with
  | nil => rfl
  | cons c run ih =>
      obtain ⟨hc, hrun⟩ := List.forall_mem_cons.1 h
      rw [wordsFrom, if_pos hc]
      apply ih hrun

theorem wordsFrom_dropWhile (cs : List Char) :
  wordsFrom [] (cs.dropWhile isBlank) = wordsFrom [] cs
  := by
  induction cs with
  | nil => rfl
  | cons c cs ih =>
      cases hc : isBlank c with
      | true =>
          rw [List.dropWhile_cons_of_pos hc, ih, wordsFrom, if_pos hc]
          rfl
      | false => rw [List.dropWhile_cons_of_neg (Bool.eq_false_iff.1 hc)]

theorem wordsFrom_append_of_blank (h : ∀ c ∈ run, isBlank c = true) (word cs : List Char) :
  wordsFrom word (cs ++ run) = wordsFrom word cs
  := by
  induction cs generalizing word with
  | nil =>
      cases run with
      | nil => rfl
      | cons c run =>
          obtain ⟨hc, hrun⟩ := List.forall_mem_cons.1 h
          rw [List.nil_append, wordsFrom, wordsFrom, if_pos hc, wordsFrom_of_blank hrun]
  | cons c cs ih => rw [List.cons_append, wordsFrom, wordsFrom, ih, ih]

/-- White space at the ends of a text does not bear on its words. -/
theorem words_trim (cs : List Char) :
  words (trim cs) = words cs
  := by
  obtain ⟨run, hrun, heq⟩ := exists_append_trimEnd (trimStart cs)
  have happend := wordsFrom_append_of_blank hrun [] (trim cs)
  change trimStart cs = trim cs ++ run at heq
  rw [words, words, ← happend, ← heq]
  apply wordsFrom_dropWhile

theorem wordsFrom_ne_nil (word cs : List Char) (h : word ≠ []) :
  wordsFrom word cs ≠ []
  := by
  induction cs generalizing word with
  | nil =>
      rw [wordsFrom, if_neg (by simpa using h)]
      apply List.cons_ne_nil
  | cons c cs ih =>
      rw [wordsFrom]
      split
      · rw [if_neg (by simpa using h)]
        apply List.cons_ne_nil
      · apply ih _ (List.cons_ne_nil c word)

theorem flatten_intersperse_cons {word : List Char} {words : List (List Char)} (h : words ≠ []) :
  ((word :: words).intersperse [' ']).flatten
    = word ++ ' ' :: (words.intersperse [' ']).flatten
  := by
  obtain ⟨next, words, rfl⟩ := List.exists_cons_of_ne_nil h
  rw [List.intersperse_cons_cons]
  rfl

/-- White space ends the word that is being read. -/
theorem wordsFrom_of_first_blank {word : List Char} (hword : word ≠ []) (hc : isBlank c = true)
    (cs : List Char) :
  wordsFrom word (c :: cs) = word.reverse :: wordsFrom [] cs
  := by
  rw [wordsFrom, if_pos hc, if_neg (by simpa using hword)]

theorem wordsFrom_skip (hc : isBlank c = true) (cs : List Char) :
  wordsFrom [] (c :: cs) = wordsFrom [] cs
  := by
  rw [wordsFrom, if_pos hc]
  rfl

theorem ne_nil_of_first_blank {word : List Char} (hc : isBlank c = true)
    (h : word = [] → ∀ d ∈ (c :: cs).head?, isBlank d = false) :
  word ≠ []
  := by
  intro hnil
  rw [h hnil c rfl] at hc
  cases hc

/-- The words of a text that does not end with white space, one space apart: the word that is being
read, and then the text with the runs of white space replaced. -/
theorem flatten_wordsFrom (word cs : List Char)
    (hfirst : word = [] → ∀ c ∈ cs.head?, isBlank c = false)
    (hlast : ∀ c ∈ cs.getLast?, isBlank c = false) :
  ((wordsFrom word cs).intersperse [' ']).flatten = word.reverse ++ collapse cs
  := by
  fun_induction collapse cs generalizing word with
  | case1 =>
      rw [wordsFrom]
      split
      · next hempty =>
        rw [List.isEmpty_iff.1 hempty]
        rfl
      · simp
  | case2 c cs hc hnext ih =>
      have hword := ne_nil_of_first_blank hc hfirst
      obtain ⟨d, hd, hblank⟩ := (Option.any_eq_true _ _).1 hnext
      obtain ⟨ds, rfl⟩ := List.head?_eq_some_iff.1 hd
      rw [wordsFrom_of_first_blank hword hc, wordsFrom_skip hblank,
        ← wordsFrom_of_first_blank hword hblank]
      apply ih _ (fun hnil => absurd hnil hword) (last_of_cons hlast)
  | case3 c cs hc hnext ih =>
      have hword := ne_nil_of_first_blank hc hfirst
      rw [any_head?_eq_false_iff] at hnext
      have hrest : wordsFrom [] cs ≠ [] := by
        cases cs with
        | nil =>
            rw [hlast c rfl] at hc
            cases hc
        | cons d ds =>
            rw [wordsFrom, if_neg (Bool.eq_false_iff.1 (hnext d rfl))]
            apply wordsFrom_ne_nil _ _ (List.cons_ne_nil d [])
      rw [wordsFrom_of_first_blank hword hc, flatten_intersperse_cons hrest,
        ih [] (fun _ => hnext) (last_of_cons hlast)]
      rfl
  | case4 c cs hc ih =>
      have hlast' : ∀ d ∈ cs.getLast?, isBlank d = false := last_of_cons hlast
      rw [wordsFrom, if_neg hc, ih _ (fun h => absurd h (List.cons_ne_nil c word)) hlast',
        List.reverse_cons, List.append_assoc]
      rfl

/-- The words of a text, one space apart, are the trimmed text with every run of white space replaced
by one space. -/
theorem tidy_eq_collapse_trim (cs : List Char) :
  tidy cs = collapse (trim cs)
  := by
  have htrimmed := isTrimmed_trim cs
  rw [tidy, ← words_trim, words, flatten_wordsFrom _ _ (fun _ => htrimmed.first) htrimmed.last]
  rfl

/-! ### Tidy texts -/

theorem first_collapse (h : ∀ c ∈ cs.head?, isBlank c = false) :
  ∀ c ∈ (collapse cs).head?, isBlank c = false
  := by
  cases cs with
  | nil => exact h
  | cons c cs =>
      rw [collapse_cons_of_not_blank (h c rfl)]
      exact h

theorem last_collapse (h : ∀ c ∈ cs.getLast?, isBlank c = false) :
  ∀ c ∈ (collapse cs).getLast?, isBlank c = false
  := by
  fun_induction collapse cs with
  | case1 => exact h
  | case2 c cs _ _ ih => apply ih (last_of_cons h)
  | case3 c cs hc _ ih =>
      apply last_cons (ih (last_of_cons h))
      intro hnil
      rw [collapse_eq_nil_iff.1 hnil] at h
      rw [h c rfl] at hc
      cases hc
  | case4 c cs hc ih =>
      apply last_cons (ih (last_of_cons h))
      intro _
      exact Bool.eq_false_iff.2 hc

theorem spaces_collapse (cs : List Char) :
  ∀ c ∈ collapse cs, isBlank c = true → c = ' '
  := by
  fun_induction collapse cs with
  | case1 =>
      intro c hc
      cases hc
  | case2 _ _ _ _ ih => exact ih
  | case3 c cs _ _ ih =>
      rw [List.forall_mem_cons]
      exact ⟨fun _ => rfl, ih⟩
  | case4 c cs hc ih =>
      rw [List.forall_mem_cons]
      exact ⟨fun hblank => absurd hblank hc, ih⟩

theorem apart_collapse (cs : List Char) :
  (collapse cs).IsChain fun c d => isBlank c = true → isBlank d = false
  := by
  fun_induction collapse cs with
  | case1 => apply List.isChain_nil
  | case2 _ _ _ _ ih => exact ih
  | case3 c cs _ hnext ih =>
      rw [List.isChain_cons]
      refine ⟨?_, ih⟩
      intro d hd _
      apply first_collapse (any_head?_eq_false_iff.1 hnext) d hd
  | case4 c cs hc ih =>
      rw [List.isChain_cons]
      refine ⟨?_, ih⟩
      intro d _ hblank
      exact absurd hblank hc

/-- What is left of a trimmed text is tidy. -/
theorem isTidy_collapse (h : IsTrimmed cs) :
  IsTidy (collapse cs)
  where
  first := first_collapse h.first
  last := last_collapse h.last
  spaces := spaces_collapse cs
  apart := apart_collapse cs

/-- In a tidy text nothing is left to replace. -/
theorem collapse_of_isTidy (h : IsTidy cs) :
  collapse cs = cs
  := by
  obtain ⟨-, hspaces, hapart⟩ := h
  induction cs with
  | nil => rfl
  | cons c cs ih =>
      obtain ⟨hspace, hspaces⟩ := List.forall_mem_cons.1 hspaces
      obtain ⟨hnext, hapart⟩ := List.isChain_cons.1 hapart
      have hrest := ih hspaces hapart
      cases hc : isBlank c with
      | true =>
          have hfirst : ∀ d ∈ cs.head?, isBlank d = false := fun d hd => hnext d hd hc
          rw [collapse, if_pos hc, if_neg (any_head?_eq_false_iff.2 hfirst), hrest, hspace hc]
      | false => rw [collapse_cons_of_not_blank hc, hrest]

theorem trim_of_isTrimmed (h : IsTrimmed cs) :
  trim cs = cs
  := by
  have hlast : ∀ c ∈ cs.reverse.head?, isBlank c = false := by
    rw [List.head?_reverse]
    exact h.last
  rw [trim, trimStart, dropWhile_eq_self h.first, trimEnd, dropWhile_eq_self hlast,
    List.reverse_reverse]

/-- A text is what is left of it when it is trimmed, with white space around. -/
theorem exists_append_trim (cs : List Char) :
  ∃ before after, (∀ c ∈ before, isBlank c = true) ∧ (∀ c ∈ after, isBlank c = true) ∧
    cs = before ++ trim cs ++ after
  := by
  obtain ⟨after, hafter, heq⟩ := exists_append_trimEnd (trimStart cs)
  refine ⟨cs.takeWhile isBlank, after, fun c hc => List.mem_takeWhile_imp hc, hafter, ?_⟩
  change trimStart cs = trim cs ++ after at heq
  rw [List.append_assoc, ← heq]
  exact List.takeWhile_append_dropWhile.symm

/-- White space around a trimmed text is what trimming takes away. -/
theorem trim_append_append {before after : List Char} (hbefore : ∀ c ∈ before, isBlank c = true)
    (hafter : ∀ c ∈ after, isBlank c = true) (hne : cs ≠ []) (h : IsTrimmed cs) :
  trim (before ++ cs ++ after) = cs
  := by
  have hfirst : ∀ c ∈ (cs ++ after).head?, isBlank c = false := by
    rw [List.head?_append_of_ne_nil cs hne]
    exact h.first
  have hlast : ∀ c ∈ cs.reverse.head?, isBlank c = false := by
    rw [List.head?_reverse]
    exact h.last
  rw [trim, trimStart, List.append_assoc, List.dropWhile_append_of_pos hbefore,
    dropWhile_eq_self hfirst, trimEnd, List.reverse_append, List.dropWhile_append_of_pos,
    dropWhile_eq_self hlast, List.reverse_reverse]
  intro c hc
  apply hafter c (List.mem_reverse.1 hc)

/-- A tidy text is its words, one space apart. -/
theorem tidy_of_isTidy (h : IsTidy cs) :
  tidy cs = cs
  := by
  rw [tidy_eq_collapse_trim, trim_of_isTrimmed h.toIsTrimmed, collapse_of_isTidy h]

end PageModel.Unicode
