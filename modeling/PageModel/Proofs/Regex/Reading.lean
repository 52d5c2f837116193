import PageModel.Regex.Parse

/-!
# Steps of reading a pattern

What the reader of patterns does with its next character, one equation for each kind: the end of a
group, an atom, the sign of a repetition, and a group, which is read by itself and taken in as a
whole. Blanks are characters as others here: the flags do not pass over them.
-/

namespace PageModel.Regex

variable {st : ReadState} {alts : List Expr} {items : List (Option Expr)} {r rest : List Char}

theorem Flags.skip_eq_self {f : Flags} (hf : f.verbose = false) (cs : List Char) :
  f.skip cs = cs
  := by
  rw [Flags.skip, hf]
  rfl

theorem readRun_of_pos (f : Flags) {p : Char → Bool} {c : Char} (hc : p c = true)
    (cs : List Char) :
  readRun f p (c :: cs) = (c :: (readRun f p (f.skip cs)).1, (readRun f p (f.skip cs)).2)
  := by
  rw [readRun, if_pos hc]

theorem readRun_of_neg (f : Flags) {p : Char → Bool} {c : Char} (hc : ¬ p c = true)
    (cs : List Char) :
  readRun f p (c :: cs) = ([], c :: cs)
  := by
  rw [readRun, if_neg hc]

/-- Where the flags pass over nothing, the characters asked for follow each other. -/
theorem of_readExactly_eq_some {f : Flags} (hf : f.verbose = false) {p : Char → Bool} {n : Nat}
    {cs run : List Char} (h : readExactly f p n cs = some (run, rest)) :
  (cs.take n).all p = true ∧ rest = cs.drop n
  := by
  induction n generalizing cs run with
  | zero =>
      cases h
      exact ⟨rfl, rfl⟩
  | succ n ih =>
      cases cs with
      | nil => cases h
      | cons c cs =>
          rw [readExactly] at h
          split at h
          · next hc =>
            obtain ⟨⟨run, rest⟩, hread, heq⟩ := Option.map_eq_some_iff.1 h
            cases heq
            rw [Flags.skip_eq_self hf] at hread
            obtain ⟨hall, hrest⟩ := ih hread
            exact ⟨Bool.and_eq_true_iff.2 ⟨hc, hall⟩, hrest⟩
          · cases h

/-- Items that are all expressions are these one after the other. -/
theorem itemsExpr_reverse_map {α : Type} (f : α → Expr) (as : List α) :
  itemsExpr (as.map fun a => some (f a)).reverse = .cats (as.map f)
  := by
  rw [itemsExpr, List.reverse_reverse, List.filterMap_map]
  exact congrArg Expr.cats (congrFun List.filterMap_eq_map as)

theorem readItems_nil (hst : st.flags.verbose = false) (fuel : Nat) :
  readItems (fuel + 1) st alts items [] = some (altsExpr alts (itemsExpr items), st, [])
  := by
  rw [readItems, Flags.skip_eq_self hst]

theorem readItems_close (hst : st.flags.verbose = false) (fuel : Nat) :
  readItems (fuel + 1) st alts items (')' :: r) =
    some (altsExpr alts (itemsExpr items), st, ')' :: r)
  := by
  rw [readItems, Flags.skip_eq_self hst]
  rfl

/-- A character that starts neither an escape nor a class is an atom, also where it has a meaning of its
own. -/
theorem exists_readAtom {c : Char} (hslash : c ≠ '\\') (hclass : c ≠ '[') :
  ∃ e, readAtom .default (c :: r) = some (e, r)
  := by
  rw [readAtom, if_neg hclass]
  · split
    · exact ⟨_, rfl⟩
    split
    · exact ⟨_, rfl⟩
    split
    · exact ⟨_, rfl⟩
    · exact ⟨_, rfl⟩
  · exact hslash

theorem exists_readEscape_of_readAtom {f : Flags} {e : Expr}
    (h : readAtom f ('\\' :: r) = some (e, rest)) :
  ∃ stands, readEscape f r = some (stands, rest)
  := by
  rw [readAtom] at h
  split at h
  · next c after hescape =>
    cases h
    exact ⟨_, hescape⟩
  · next s after hescape =>
    cases h
    exact ⟨_, hescape⟩
  · next a after hescape =>
    cases h
    exact ⟨_, hescape⟩
  · cases h

/-- A literal, a class, an anchor or the dot is one item. -/
theorem readItems_atom (hst : st.flags.verbose = false) (fuel : Nat) {c : Char} {e : Expr}
    (hc : c ∉ [')', '|', '(']) (hsign : startsRepetition c = false)
    (hatom : readAtom st.flags (c :: r) = some (e, rest)) :
  readItems (fuel + 1) st alts items (c :: r) = readItems fuel st alts (some e :: items) rest
  := by
  simp only [List.mem_cons, not_or] at hc
  obtain ⟨hclose, hbar, hopen, -⟩ := hc
  rw [readItems, Flags.skip_eq_self hst]
  simp only [hclose, hbar, hopen, hsign, hatom, if_false, Bool.false_eq_true]

/-- Where an atom has to stand, something is read only if one is. -/
theorem exists_readAtom_of_readItems (hst : st.flags.verbose = false) {fuel : Nat} {c : Char}
    {found : Expr × ReadState × List Char} (hc : c ∉ [')', '|', '('])
    (hsign : startsRepetition c = false)
    (h : readItems (fuel + 1) st alts items (c :: r) = some found) :
  ∃ e rest, readAtom st.flags (c :: r) = some (e, rest) ∧
    readItems fuel st alts (some e :: items) rest = some found
  := by
  cases hatom : readAtom st.flags (c :: r) with
  | some read =>
      obtain ⟨e, rest⟩ := read
      rw [readItems_atom hst fuel hc hsign hatom] at h
      exact ⟨e, rest, rfl, h⟩
  | none =>
      simp only [List.mem_cons, not_or] at hc
      obtain ⟨hclose, hbar, hopen, -⟩ := hc
      rw [readItems, Flags.skip_eq_self hst] at h
      simp only [hclose, hbar, hopen, hsign, hatom, if_false, Bool.false_eq_true] at h
      cases h

/-- The sign of a repetition takes the item before it. -/
theorem readItems_repetition (hst : st.flags.verbose = false) (fuel : Nat) {c : Char} {e : Expr}
    {min : Nat} {max : Option Nat} {isLazy : Bool} (hsign : startsRepetition c = true)
    (hread : readRepetition st.flags (c :: r) = some ((min, max), isLazy, rest)) :
  readItems (fuel + 1) st alts (some e :: items) (c :: r) =
    readItems fuel st alts (some (.rounds min max (isLazy == st.flags.swapGreed) e) :: items) rest
  := by
  have hne {d : Char} (hd : startsRepetition d = false) : c ≠ d := by
    rintro rfl
    rw [hd] at hsign
    cases hsign
  have hclose : c ≠ ')' := hne (by decide)
  have hbar : c ≠ '|' := hne (by decide)
  have hopen : c ≠ '(' := hne (by decide)
  rw [readItems, Flags.skip_eq_self hst]
  simp only [hclose, hbar, hopen, hsign, hread, if_false, if_true]

/-- What is read after the start of a group: what its flags hold for, or its items up to the bracket that
closes it and then the items after it. -/
def afterStart (fuel : Nat) (st : ReadState) (alts : List Expr) (items : List (Option Expr)) :
    GroupStart → Option (Expr × ReadState × List Char)
  | .flags f rest => readItems fuel { st with flags := f } alts (none :: items) rest
  | .group index inner body =>
      match readItems fuel inner [] [] body with
      | some (e, after, ')' :: rest) =>
          let e : Expr := match index with | some i => .group i e | none => e
          readItems fuel { after with flags := st.flags } alts (some e :: items) rest
      | _ => none

/-- An opening bracket starts a group, or changes the flags. -/
theorem readItems_start {cs : List Char} (hcs : st.flags.skip cs = '(' :: r) (fuel : Nat) :
  readItems (fuel + 1) st alts items cs = (startGroup st r).bind (afterStart fuel st alts items)
  := by
  have hclose : '(' ≠ ')' := by decide
  have hbar : '(' ≠ '|' := by decide
  rw [readItems, hcs]
  simp only [hclose, hbar, if_false, if_true]
  cases startGroup st r with
  | none => rfl
  | some start => cases start <;> rfl

/-- A group is one item. The flags that it sets end with it. -/
theorem readItems_group (hst : st.flags.verbose = false) (fuel : Nat) {index : Option Nat}
    {inner after : ReadState} {body : List Char} {e : Expr}
    (hstart : startGroup st r = some (.group index inner body))
    (hbody : readItems fuel inner [] [] body = some (e, after, ')' :: rest)) :
  readItems (fuel + 1) st alts items ('(' :: r) =
    readItems fuel { after with flags := st.flags } alts (some (index.elim e (.group · e)) :: items)
      rest
  := by
  rw [readItems_start (Flags.skip_eq_self hst _), hstart, Option.bind_some, afterStart, hbody]
  cases index <;> rfl

/-- A group that is still open where the text ends is none. -/
theorem readItems_open (hst : st.flags.verbose = false) (fuel : Nat) {index : Option Nat}
    {inner after : ReadState} {body : List Char} {e : Expr}
    (hstart : startGroup st r = some (.group index inner body))
    (hbody : readItems fuel inner [] [] body = some (e, after, [])) :
  readItems (fuel + 1) st alts items ('(' :: r) = none
  := by
  rw [readItems_start (Flags.skip_eq_self hst _), hstart, Option.bind_some, afterStart, hbody]

/-- Something is read from the opening bracket of a group on only if the group is closed. -/
theorem exists_group_of_readItems (hst : st.flags.verbose = false) {fuel : Nat} {index : Option Nat}
    {inner : ReadState} {body : List Char} {found : Expr × ReadState × List Char}
    (hstart : startGroup st r = some (.group index inner body))
    (h : readItems (fuel + 1) st alts items ('(' :: r) = some found) :
  ∃ e after rest, readItems fuel inner [] [] body = some (e, after, ')' :: rest) ∧
    readItems fuel { after with flags := st.flags } alts
      (some (index.elim e (.group · e)) :: items) rest = some found
  := by
  rw [readItems_start (Flags.skip_eq_self hst _), hstart, Option.bind_some, afterStart] at h
  split at h
  · next e after rest hbody =>
    refine ⟨e, after, rest, hbody, ?_⟩
    cases index <;> exact h
  · cases h

/-- A text is a pattern if its items are read to its end. -/
theorem Expr.parse_eq_some_iff {flags : Flags} {cs : List Char} {e : Expr} :
  Expr.parse flags cs = some e ↔
    ∃ after, readItems (cs.length + 1) (.initial flags) [] [] cs = some (e, after, [])
  := by
  unfold Expr.parse
  constructor
  · intro h
    split at h
    · next hread =>
      cases h
      exact ⟨_, hread⟩
    · cases h
  · rintro ⟨after, hread⟩
    rw [hread]

end PageModel.Regex
