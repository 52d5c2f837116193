import PageModel.Proofs.Regex.Matches
import PageModel.Proofs.Regex.Reading
import PageModel.Proofs.Regex.Search
import PageModel.UrlRule

/-!
# What a glob matches

A glob in which no character but the asterisk has a meaning of its own is matched as it looks: every
asterisk stands for a run of characters up to a quote or a number sign, every other character for
itself (`GlobMatches`). The text that the glob is turned into is read back as one item for each
character (`readItems_globs`), these match what the characters stand for (`matches_globItems_iff`),
and the anchors around them leave nothing of the URL out (`isMatch_anchored_iff`).
-/

namespace PageModel

open Regex

/-! ### Globs as they look -/

/-- The characters that patterns give a meaning other than globs do. -/
def reservedChars : List Char :=
  ['\\', '+', '?', '(', ')', '|', '[', ']', '\x7b', '\x7d', '^', '$']

/-- The characters at which a run that an asterisk stands for has to end. -/
def runEnds : List Char :=
  ['"', '\'', '#']

/-- `GlobMatches glob url` says that a URL is the glob with each asterisk replaced by a run. -/
inductive GlobMatches : (glob url : List Char) → Prop where
  | nil : GlobMatches [] []
  | char {c : Char} {glob url : List Char} (hc : c ≠ '*') (h : GlobMatches glob url) :
      GlobMatches (c :: glob) (c :: url)
  | run {run glob url : List Char} (hrun : ∀ c ∈ run, c ∉ runEnds) (h : GlobMatches glob url) :
      GlobMatches ('*' :: glob) (run ++ url)

theorem globMatches_nil_iff {url : List Char} :
  GlobMatches [] url ↔ url = []
  := by
  constructor
  · intro h
    cases h
    rfl
  · rintro rfl
    exact .nil

theorem globMatches_run_iff {glob url : List Char} :
  GlobMatches ('*' :: glob) url ↔
    ∃ run rest, url = run ++ rest ∧ (∀ c ∈ run, c ∉ runEnds) ∧ GlobMatches glob rest
  := by
  constructor
  · intro h
    cases h with
    | char hc => exact absurd rfl hc
    | @run run _ rest hrun h => exact ⟨run, rest, rfl, hrun, h⟩
  · rintro ⟨run, rest, rfl, hrun, h⟩
    exact .run hrun h

theorem globMatches_char_iff {c : Char} {glob url : List Char} (hc : c ≠ '*') :
  GlobMatches (c :: glob) url ↔ ∃ rest, url = c :: rest ∧ GlobMatches glob rest
  := by
  constructor
  · intro h
    cases h with
    | @char _ _ rest _ h => exact ⟨rest, rfl, h⟩
    | run => exact absurd rfl hc
  · rintro ⟨rest, rfl, h⟩
    exact .char hc h

/-! ### Globs as expressions -/

/-- The set of the characters of a run. -/
def runSet : CharSet :=
  .compl (.unions (runEnds.map .single))

/-- The expression that a character of a glob is read as. -/
def globItem (c : Char) : Expr :=
  if c = '*' then .repeated 0 none true (.set runSet) else .set (.single c)

/-- The expression that a glob is read as. -/
def globExpr (glob : List Char) : Expr :=
  .cats [.anchor .start, .group 1 (.cats (glob.map globItem)), .anchor .ending]

/-! ### The text of a glob -/

/-- The part of a pattern that a character of a glob stands for. -/
def globChar (c : Char) : List Char :=
  if c = '.' then dotSource else if c = '*' then runSource else [c]

/-- The text that stands for a dot has no asterisk, so the two replacements are one pass in which each
character is replaced by its part. -/
theorem replaceChar_replaceChar (glob : List Char) :
  replaceChar '*' runSource (replaceChar '.' dotSource glob) = glob.flatMap globChar
  := by
  rw [replaceChar, replaceChar, List.flatMap_assoc]
  congr 1
  funext c
  unfold globChar
  split
  · rfl
  · rw [List.flatMap_singleton]

theorem globChar_of_ne {c : Char} (hdot : c ≠ '.') (hrun : c ≠ '*') :
  globChar c = [c]
  := by
  rw [globChar, if_neg hdot, if_neg hrun]

/-! ### Reading -/

section

variable {n : Nat} {names : List (List Char)} {alts : List Expr} {items : List (Option Expr)}
  {rest : List Char}

/-- A question mark would be read with the asterisk. -/
theorem readRepetition_run (hrest : rest.head? ≠ some '?') :
  readRepetition .default ('*' :: rest) = some ((0, none), false, rest)
  := by
  have hlazy : readLazy rest = (false, rest) := by
    unfold readLazy
    split
    · exact absurd rfl hrest
    · rfl
  rw [readRepetition, hlazy]
  rfl

theorem readClass_run :
  readClass .default ('^' :: '"' :: '\'' :: '#' :: ']' :: rest) = some (runSet, rest)
  := by
  have hopen : openClass .default ('^' :: '"' :: '\'' :: '#' :: ']' :: rest) =
      (true, [], '"' :: '\'' :: '#' :: ']' :: rest) := by
    have hquote : ¬ decide ('"' = '-') = true := by decide
    rw [openClass, Flags.skip_eq_self rfl]
    simp only
    rw [Flags.skip_eq_self rfl, openingMembers, readRun_of_neg .default hquote]
    rfl
  rw [readClass, hopen]
  rfl

/-- An asterisk takes the reader two steps, one for the class and one for the sign after it. -/
theorem readItems_run (fuel : Nat) (hrest : rest.head? ≠ some '?') :
  readItems (fuel + 2) ⟨.default, n, names⟩ alts items (globChar '*' ++ rest) =
    readItems fuel ⟨.default, n, names⟩ alts (some (globItem '*') :: items) rest
  := by
  have hclass : readAtom .default (globChar '*' ++ rest) = some (.set runSet, '*' :: rest) := by
    change (readClass .default ('^' :: '"' :: '\'' :: '#' :: ']' :: '*' :: rest)).map _ = _
    rw [readClass_run]
    rfl
  have hitem : globItem '*' = .rounds 0 none (false == Flags.default.swapGreed) (.set runSet) := rfl
  calc readItems (fuel + 2) ⟨.default, n, names⟩ alts items (globChar '*' ++ rest)
      = readItems (fuel + 1) ⟨.default, n, names⟩ alts (some (.set runSet) :: items)
          ('*' :: rest) := readItems_atom rfl (fuel + 1) (by decide) rfl hclass
    _ = readItems fuel ⟨.default, n, names⟩ alts (some (globItem '*') :: items) rest := by
        rw [hitem]
        exact readItems_repetition rfl fuel rfl (readRepetition_run hrest)

theorem readItems_dot (fuel : Nat) :
  readItems (fuel + 1) ⟨.default, n, names⟩ alts items (globChar '.' ++ rest) =
    readItems fuel ⟨.default, n, names⟩ alts (some (globItem '.') :: items) rest
  := by
  have hdot : readAtom .default (globChar '.' ++ rest) = some (globItem '.', rest) := rfl
  exact readItems_atom rfl fuel (by decide) rfl hdot

theorem readItems_plain (fuel : Nat) {c : Char} (hc : c ∉ reservedChars) (hrun : c ≠ '*')
    (hdot : c ≠ '.') :
  readItems (fuel + 1) ⟨.default, n, names⟩ alts items (globChar c ++ rest) =
    readItems fuel ⟨.default, n, names⟩ alts (some (globItem c) :: items) rest
  := by
  simp only [reservedChars, List.mem_cons, not_or] at hc
  obtain ⟨hslash, hplus, hmark, hopen, hclose, hbar, hclass, -, hbrace, -, hcaret, hdollar, -⟩ := hc
  have hatom : readAtom .default (c :: rest) = some (.set (.single c), rest) := by
    rw [readAtom, if_neg hclass, if_neg hdot, if_neg hcaret, if_neg hdollar]
    · rfl
    · exact hslash
  have hsign : startsRepetition c = false := by
    simp [startsRepetition, hmark, hrun, hplus, hbrace]
  rw [globChar_of_ne hdot hrun, globItem, if_neg hrun]
  exact readItems_atom rfl fuel (by simp [hclose, hbar, hopen]) hsign hatom

/-- The text that stands for a glob in a group starts with a backslash, with the opening of a class, with
the end of the group or else with the first character of the glob. -/
theorem globs_eq_cons {glob r : List Char} {d : Char}
    (h : glob.flatMap globChar ++ ')' :: rest = d :: r) (hd : d ∉ ['\\', '[', ')']) :
  ∃ glob', glob = d :: glob' ∧ d ≠ '.' ∧ r = glob'.flatMap globChar ++ ')' :: rest
  := by
  simp only [List.mem_cons, not_or] at hd
  obtain ⟨hslash, hclass, hclose, -⟩ := hd
  cases glob with
  | nil => exact absurd (List.head_eq_of_cons_eq h).symm hclose
  | cons c glob =>
      rw [List.flatMap_cons, List.append_assoc] at h
      by_cases hdot : c = '.'
      · subst hdot
        exact absurd (List.head_eq_of_cons_eq h).symm hslash
      by_cases hrun : c = '*'
      · subst hrun
        exact absurd (List.head_eq_of_cons_eq h).symm hclass
      · rw [globChar_of_ne hdot hrun] at h
        obtain ⟨rfl, rfl⟩ := List.cons.inj h
        exact ⟨glob, rfl, hdot, rfl⟩

theorem head?_globs {glob : List Char} {d : Char} (hglob : d ∉ glob) (hd : d ∉ ['\\', '[', ')']) :
  (glob.flatMap globChar ++ ')' :: rest).head? ≠ some d
  := by
  intro h
  obtain ⟨r, htext⟩ := List.head?_eq_some_iff.1 h
  obtain ⟨glob', rfl, -⟩ := globs_eq_cons htext hd
  exact hglob List.mem_cons_self

theorem length_globChar_pos (c : Char) :
  0 < (globChar c).length
  := by
  unfold globChar
  split
  · decide
  · split
    · decide
    · exact Nat.one_pos

/-- Every character of a glob is one item for the reader. -/
theorem readItems_globs {glob : List Char} (hglob : ∀ c ∈ glob, c ∉ reservedChars) (fuel : Nat)
    (hfuel : (glob.flatMap globChar).length < fuel) (items : List (Option Expr)) :
  readItems fuel ⟨.default, n, names⟩ [] items (glob.flatMap globChar ++ ')' :: rest) =
    some (itemsExpr ((glob.map fun c => some (globItem c)).reverse ++ items),
      ⟨.default, n, names⟩, ')' :: rest)
  := by
  induction glob generalizing fuel items with
  | nil =>
      obtain ⟨fuel, rfl⟩ := Nat.exists_eq_succ_of_ne_zero (Nat.ne_of_gt hfuel)
      exact readItems_close rfl fuel
  | cons c glob ih =>
      obtain ⟨hc, hrest⟩ := List.forall_mem_cons.1 hglob
      have hmark : '?' ∉ glob := fun h => hrest '?' h (by decide)
      rw [List.flatMap_cons, List.length_append] at hfuel
      rw [List.flatMap_cons, List.append_assoc, List.map_cons, List.reverse_cons, List.append_assoc]
      by_cases hrun : c = '*'
      · subst hrun
        have hlength : (globChar '*').length = 7 := rfl
        obtain ⟨fuel, rfl⟩ : ∃ m, fuel = m + 2 := ⟨fuel - 2, by omega⟩
        rw [readItems_run fuel (head?_globs hmark (by decide))]
        exact ih hrest fuel (by omega) _
      · have hlength := length_globChar_pos c
        obtain ⟨fuel, rfl⟩ : ∃ m, fuel = m + 1 := ⟨fuel - 1, by omega⟩
        have hstep : readItems (fuel + 1) ⟨.default, n, names⟩ [] items
            (globChar c ++ (glob.flatMap globChar ++ ')' :: rest)) =
            readItems fuel ⟨.default, n, names⟩ [] (some (globItem c) :: items)
              (glob.flatMap globChar ++ ')' :: rest) := by
          by_cases hdot : c = '.'
          · subst hdot
            exact readItems_dot fuel
          · exact readItems_plain fuel hc hrun hdot
        rw [hstep]
        exact ih hrest fuel (by omega) _

end

/-- The group of a glob starts a group with a number, not one that a question mark makes special. -/
theorem startGroup_globs {st : ReadState} {glob rest : List Char} (hst : st.flags.verbose = false)
    (hglob : '?' ∉ glob) :
  startGroup st (glob.flatMap globChar ++ ')' :: rest) =
    some (.group (some st.nextGroup) { st with nextGroup := st.nextGroup + 1 }
      (glob.flatMap globChar ++ ')' :: rest))
  := by
  have hhead : (glob.flatMap globChar ++ ')' :: rest).head? ≠ some '?' :=
    head?_globs hglob (by decide)
  rw [startGroup, Flags.skip_eq_self hst]
  split
  · next h => exact absurd (by rw [h]; rfl) hhead
  · next h => exact absurd (by rw [h]; rfl) hhead
  · next h => exact absurd (by rw [h]; rfl) hhead
  · rfl

/-- The text of an anchored glob, with the group that has no number around the group that has one. -/
theorem toList_anchoredSource (glob : String) :
  (anchoredSource (globSource glob)).toList =
    '^' :: '(' :: '?' :: ':' :: '(' :: (glob.toList.flatMap globChar ++ [')', ')', '$'])
  := by
  simp [anchoredSource, globSource, replaceChar_replaceChar]

/-- A glob compiles to the expression that it is read as. -/
theorem parse_glob {glob : String} (hglob : ∀ c ∈ glob.toList, c ∉ reservedChars) :
  Expr.parse .default (anchoredSource (globSource glob)).toList = some (globExpr glob.toList)
  := by
  have hmark : '?' ∉ glob.toList := fun h => hglob '?' h (by decide)
  -- from the inside out: the items, the group with a number, the group without one, the anchors
  have hitems (fuel : Nat) (hfuel : (glob.toList.flatMap globChar).length < fuel) :
      readItems fuel ⟨.default, 2, []⟩ [] [] (glob.toList.flatMap globChar ++ [')', ')', '$']) =
      some (.cats (glob.toList.map globItem), ⟨.default, 2, []⟩, [')', ')', '$']) := by
    rw [readItems_globs hglob fuel hfuel, List.append_nil, itemsExpr_reverse_map]
  have hgroup (fuel : Nat) (hfuel : (glob.toList.flatMap globChar).length < fuel) :
      readItems (fuel + 2) (.initial .default) [] []
        ('(' :: (glob.toList.flatMap globChar ++ [')', ')', '$'])) =
      some (.group 1 (.cats (glob.toList.map globItem)), ⟨.default, 2, []⟩, [')', '$']) := by
    rw [readItems_group rfl (fuel + 1) (startGroup_globs rfl hmark)
      (hitems (fuel + 1) (Nat.lt_succ_of_lt hfuel))]
    exact readItems_close rfl fuel
  have hlength : (anchoredSource (globSource glob)).toList.length + 1 =
      (glob.toList.flatMap globChar).length + 5 + 4 := by
    rw [toList_anchoredSource]
    simp
  have hnumberless : startGroup (.initial .default)
      ('?' :: ':' :: '(' :: (glob.toList.flatMap globChar ++ [')', ')', '$'])) =
      some (.group none (.initial .default)
        ('(' :: (glob.toList.flatMap globChar ++ [')', ')', '$']))) := rfl
  rw [Expr.parse, hlength, toList_anchoredSource]
  rw [readItems_atom rfl _ (by decide) rfl rfl,
    readItems_group rfl _ hnumberless (hgroup _ (by omega)),
    readItems_atom rfl _ (by decide) rfl rfl, readItems_nil rfl]
  rfl

/-! ### Matching -/

theorem contains_runSet_iff {c : Char} :
  runSet.contains c = true ↔ c ∉ runEnds
  := by
  simp [runSet, runEnds, CharSet.unions, CharSet.contains, CharSet.contains_single]

/-- The items of a glob match what the glob looks like. -/
theorem matches_globItems_iff {glob before url after : List Char} :
  Matches (.cats (glob.map globItem)) before url after ↔ GlobMatches glob url
  := by
  induction glob generalizing before url with
  | nil => exact matches_empty_iff.trans globMatches_nil_iff.symm
  | cons c glob ih =>
      rw [List.map_cons, matches_cats_cons_iff]
      by_cases hrun : c = '*'
      · subst hrun
        simp only [globMatches_run_iff, globItem, if_true, matches_repeated_set_iff,
          contains_runSet_iff, ih]
      · simp only [globMatches_char_iff hrun, globItem, if_neg hrun, matches_single_iff, ih]
        constructor
        · rintro ⟨_, rest, rfl, rfl, h⟩
          exact ⟨rest, rfl, h⟩
        · rintro ⟨rest, rfl, h⟩
          exact ⟨[c], rest, rfl, rfl, h⟩

/-- A glob without characters that have a meaning of their own compiles, and its pattern matches the
URLs that are the glob with each asterisk replaced by a run, and no others. -/
theorem exists_compileGlob_isMatch_iff (glob : String)
    (hglob : ∀ c ∈ glob.toList, c ∉ reservedChars) :
  ∃ p, compileGlob glob = .ok p ∧
    ∀ url, p.isMatch url = true ↔ GlobMatches glob.toList url.toList
  := by
  refine ⟨⟨anchoredSource (globSource glob), globExpr glob.toList⟩, ?_, fun url => ?_⟩
  · rw [compileGlob, Pattern.compile?, parse_glob hglob]
    rfl
  · exact isMatch_anchored_iff.trans (matches_group_iff.trans matches_globItems_iff)

/-- A run may hold line ends and characters of any script, and the dot stands for itself. -/
theorem compileGlob_dotAndRun :
  ∃ p, compileGlob "a.b/*" = .ok p ∧ p.isMatch "a.b/é\n" = true ∧ p.isMatch "aXb/" = false
  := by
  obtain ⟨p, hp, hmatch⟩ := exists_compileGlob_isMatch_iff "a.b/*" (by simp [reservedChars])
  refine ⟨p, hp, ?_, ?_⟩
  · have hchars : ∀ c ∈ ['é', '\n'], c ∉ runEnds := by simp [runEnds]
    have hrun : GlobMatches ['*'] ['é', '\n'] := .run hchars .nil
    have hrest : GlobMatches ['b', '/', '*'] ['b', '/', 'é', '\n'] :=
      .char (by decide) (.char (by decide) hrun)
    exact (hmatch "a.b/é\n").2 (.char (by decide) (.char (by decide) hrest))
  · rw [← Bool.not_eq_true, hmatch]
    intro h
    obtain ⟨rest, hurl, hrest⟩ := (globMatches_char_iff (by decide)).1 h
    obtain rfl : ['X', 'b', '/'] = rest := List.tail_eq_of_cons_eq hurl
    obtain ⟨rest', hurl', -⟩ := (globMatches_char_iff (by decide)).1 hrest
    exact absurd (List.head_eq_of_cons_eq hurl') (by decide)

end PageModel
