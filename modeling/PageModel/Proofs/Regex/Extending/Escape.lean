import PageModel.Proofs.Regex.Reading

/-!
# Reading a text with more after it

What a reader of patterns takes from a text it also takes if the end of a group follows the text
(`closing`): it leaves what it left before, with the closing after it. Only a comment that goes to the
end of the text goes on, and takes the closing in (`Extended`). Here this is said and shown for
characters that flags pass over, for runs of characters and for escapes.
-/

namespace PageModel.Regex

variable {α β : Type} {cs cs' : List Char}

/-! ### Extended texts -/

/-- The end of a group, and the anchor of the end after it. -/
def closing : List Char :=
  [')', '$']

/-- `Extended cs cs'` says that `cs'` may be left of a text with the closing after it where `cs` is left
of the text alone: the same and the closing, or nothing, if a comment has taken the closing in. -/
inductive Extended : (cs cs' : List Char) → Prop where
  | closed (cs : List Char) : Extended cs (cs ++ closing)
  | commented : Extended [] []

/-- `Extends x y` says that what is read of a text is read of the extended text as well. Nothing is said
of texts that nothing is read of. -/
def Extends (x y : Option (α × List Char)) : Prop :=
  ∀ a rest, x = some (a, rest) → ∃ rest', y = some (a, rest') ∧ Extended rest rest'

theorem Extended.cons {c : Char} (h : Extended (c :: cs) cs') :
  cs' = c :: (cs ++ closing)
  := by
  cases h
  rfl

theorem Extended.of_nil (h : Extended [] cs') :
  cs' = closing ∨ cs' = []
  := by
  cases h with
  | closed => exact .inl rfl
  | commented => exact .inr rfl

theorem Extended.length_le (h : Extended cs cs') :
  cs.length ≤ cs'.length
  := by
  cases h with
  | closed =>
      rw [List.length_append]
      exact Nat.le_add_right _ _
  | commented => exact Nat.le_refl 0

theorem exists_cons_of_append_closing {c : Char} {r : List Char} (hc : c ≠ ')')
    (h : cs ++ closing = c :: r) :
  ∃ s, cs = c :: s ∧ r = s ++ closing
  := by
  cases cs with
  | nil => exact absurd (List.head_eq_of_cons_eq h).symm hc
  | cons d s =>
      obtain ⟨rfl, rfl⟩ := List.cons.inj h
      exact ⟨s, rfl, rfl⟩

/-- A character that an extended text starts with, other than a closing bracket, starts the text. -/
theorem Extended.cons_inv {c : Char} {r : List Char} (h : Extended cs (c :: r)) (hc : c ≠ ')') :
  ∃ s, cs = c :: s
  := by
  generalize hx : c :: r = x at h
  cases h with
  | commented => cases hx
  | closed =>
      obtain ⟨s, hs, -⟩ := exists_cons_of_append_closing hc hx.symm
      exact ⟨s, hs⟩

theorem Extends.none {y : Option (α × List Char)} :
  Extends none y
  := by
  intro a rest h
  cases h

theorem Extends.some {a : α} (h : Extended cs cs') :
  Extends (some (a, cs)) (some (a, cs'))
  := by
  rintro _ _ ⟨⟩
  exact ⟨cs', rfl, h⟩

theorem Extends.map (g : α → β) {x y : Option (α × List Char)} (h : Extends x y) :
  Extends (x.map fun (a, rest) => (g a, rest)) (y.map fun (a, rest) => (g a, rest))
  := by
  intro b rest hx
  obtain ⟨⟨a, rest⟩, hx, heq⟩ := Option.map_eq_some_iff.1 hx
  cases heq
  obtain ⟨rest', rfl, hrest⟩ := h a rest hx
  exact ⟨rest', rfl, hrest⟩

theorem Extends.bind {x y : Option (α × List Char)} {g : α × List Char → Option (β × List Char)}
    (h : Extends x y)
    (hg : ∀ a rest rest', Extended rest rest' → Extends (g (a, rest)) (g (a, rest'))) :
  Extends (x.bind g) (y.bind g)
  := by
  intro b rest hx
  obtain ⟨⟨a, after⟩, hx, hb⟩ := Option.bind_eq_some_iff.1 hx
  obtain ⟨after', rfl, hafter⟩ := h a after hx
  exact hg a after after' hafter b rest hb

theorem Extends.value (g : α → β) {a? : Option α} (h : Extended cs cs') :
  Extends (a?.map fun a => (g a, cs)) (a?.map fun a => (g a, cs'))
  := by
  cases a? with
  | none => exact .none
  | some a => exact .some h

/-! ### Runs of characters -/

theorem skipLoose_extended (h : Extended cs cs') (inComment : Bool) :
  Extended (skipLoose inComment cs) (skipLoose inComment cs')
  := by
  cases h with
  | commented => exact .commented
  | closed cs =>
      induction cs generalizing inComment with
      | nil =>
          cases inComment with
          | false => exact .closed []
          | true => exact .commented
      | cons c cs ih =>
          rw [List.cons_append]
          unfold skipLoose
          split
          · exact ih _
          split
          · exact ih _
          split
          · exact ih _
          · exact .closed (c :: cs)

theorem Flags.skip_extended (f : Flags) (h : Extended cs cs') :
  Extended (f.skip cs) (f.skip cs')
  := by
  unfold Flags.skip
  split
  · exact skipLoose_extended h false
  · exact h

/-- A run of characters that ends within a text ends there in the extended text. -/
theorem dropWhile_takeWhile_extended {p : Char → Bool} {c : Char} {rest : List Char}
    (h : cs.dropWhile p = c :: rest) :
  (cs ++ closing).dropWhile p = c :: (rest ++ closing) ∧
    (cs ++ closing).takeWhile p = cs.takeWhile p
  := by
  induction cs with
  | nil => cases h
  | cons d cs ih =>
      rw [List.cons_append, List.dropWhile_cons, List.takeWhile_cons, List.takeWhile_cons]
      rw [List.dropWhile_cons] at h
      cases hd : p d with
      | true =>
          rw [if_pos hd] at h
          obtain ⟨hdrop, htake⟩ := ih h
          simp [hdrop, htake]
      | false =>
          rw [hd] at h
          cases h
          exact ⟨rfl, rfl⟩

theorem dropWhile_extended {p : Char → Bool} (hp : p ')' = false) (h : Extended cs cs') :
  Extended (cs.dropWhile p) (cs'.dropWhile p)
  := by
  cases h with
  | commented => exact .commented
  | closed =>
      rw [List.dropWhile_append]
      split
      · next hempty =>
        rw [List.isEmpty_iff.1 hempty, closing, List.dropWhile_cons, hp]
        exact .closed []
      · exact .closed _

theorem readRun_extended (f : Flags) {p : Char → Bool} (h : Extended cs cs')
    (hend : p ')' = false ∨ (readRun f p cs).2 ≠ []) :
  (readRun f p cs').1 = (readRun f p cs).1 ∧ Extended (readRun f p cs).2 (readRun f p cs').2
  := by
  fun_induction readRun f p cs generalizing cs' with
  | case1 =>
      have hp : ¬ p ')' = true := by simpa using hend
      rcases h.of_nil with rfl | rfl
      · rw [closing, readRun_of_neg f hp]
        exact ⟨rfl, .closed []⟩
      · rw [readRun]
        exact ⟨rfl, .commented⟩
  | case2 c cs hc hlt run rest hrun ih =>
      obtain rfl := h.cons
      rw [hrun] at ih
      rw [readRun_of_pos f hc]
      obtain ⟨hchars, hrest⟩ := ih (f.skip_extended (.closed cs)) hend
      exact ⟨congrArg (c :: ·) hchars, hrest⟩
  | case3 c cs hc =>
      obtain rfl := h.cons
      rw [readRun_of_neg f hc]
      exact ⟨rfl, .closed (c :: cs)⟩

/-- A run of characters that ends within a text ends there in the extended text. -/
theorem readRun_append_closing (f : Flags) {p : Char → Bool} {run rest : List Char} {c : Char}
    (h : Extended cs cs') (hrun : readRun f p cs = (run, c :: rest)) :
  readRun f p cs' = (run, c :: (rest ++ closing))
  := by
  obtain ⟨hchars, hrest⟩ := readRun_extended f h (p := p) (.inr (by simp [hrun]))
  rw [hrun] at hchars hrest
  exact Prod.ext hchars hrest.cons

theorem readExactly_extended (f : Flags) (p : Char → Bool) (n : Nat) (h : Extended cs cs') :
  Extends (readExactly f p n cs) (readExactly f p n cs')
  := by
  induction n generalizing cs cs' with
  | zero =>
      rw [readExactly, readExactly]
      exact .some h
  | succ n ih =>
      cases cs with
      | nil => exact .none
      | cons c cs =>
          obtain rfl := h.cons
          rw [readExactly, readExactly]
          split
          · exact .map _ (ih (f.skip_extended (.closed cs)))
          · exact .none

/-! ### Escapes -/

theorem readHex_extended (f : Flags) (width : Nat) (h : Extended cs cs') :
  Extends (readHex f width cs) (readHex f width cs')
  := by
  have hskip := f.skip_extended h
  unfold readHex
  revert hskip
  generalize f.skip cs = cs
  generalize f.skip cs' = cs'
  intro h
  split
  · next r =>
    obtain rfl := h.cons
    simp only
    split
    · next digits rest hrun =>
      rw [readRun_append_closing f (f.skip_extended (.closed r)) hrun]
      simp only
      split
      · exact .none
      · exact .value id (f.skip_extended (.closed rest))
    · exact .none
  · next hbrace =>
    split
    · next digits rest hdigits =>
      obtain ⟨rest', hdigits', hrest⟩ :=
        readExactly_extended f isHexDigit width h digits rest hdigits
      split
      · exact .none
      · next hbyte =>
        split
        · obtain ⟨r, rfl⟩ := h.cons_inv (by decide)
          exact absurd rfl (hbrace r)
        · rw [hdigits']
          simp only [hbyte]
          exact .value id hrest
    · exact .none

theorem readProperty_extended (f : Flags) (negated : Bool) (h : Extended cs cs') :
  Extends (readProperty f negated cs) (readProperty f negated cs')
  := by
  have hskip := f.skip_extended h
  unfold readProperty
  revert hskip
  generalize f.skip cs = cs
  generalize f.skip cs' = cs'
  intro h
  have hfinish (s : Option CharSet) {rest rest' : List Char} (h : Extended rest rest') :
      Extends
        (if !f.unicode then none
          else s.map fun s => (CharSet.complIf negated (if f.caseless then .folded s else s), rest))
        (if !f.unicode then none
          else s.map fun s => (CharSet.complIf negated (if f.caseless then .folded s else s), rest'))
      := by
    split
    · exact .none
    · cases s with
      | none => exact .none
      | some s => exact .some h
  cases cs with
  | nil => exact .none
  | cons c r =>
      obtain rfl := h.cons
      have hrest := f.skip_extended (.closed r)
      by_cases hc : c = '\x7b'
      · subst hc
        simp only
        split
        · next name d rest hrun =>
          rw [readRun_append_closing f hrest hrun]
          exact hfinish _ (.closed rest)
        · exact .none
      · simp only
        split
        · exact .none
        · exact hfinish _ hrest

theorem readWordBoundary_extended (f : Flags) (h : Extended cs cs') :
  Extends (readWordBoundary f cs) (readWordBoundary f cs')
  := by
  unfold readWordBoundary
  split
  · next r =>
    obtain rfl := h.cons
    have hskip := f.skip_extended (.closed r)
    simp only
    split
    · next rest hrun =>
      cases rest with
      | nil => exact .none
      | cons c rest =>
          rw [readRun_append_closing f hskip hrun]
          exact .some h
    · next name rest hname hrun =>
      rw [readRun_append_closing f hskip hrun]
      simp only
      exact .value _ (.closed rest)
    · exact .none
  · next hbrace =>
    split
    · obtain ⟨r, rfl⟩ := h.cons_inv (by decide)
      exact absurd rfl (hbrace r)
    · exact .some h

/-- An escape that is read of a text is read of the extended text as well. -/
theorem readEscape_extended (f : Flags) (h : Extended cs cs') :
  Extends (readEscape f cs) (readEscape f cs')
  := by
  cases cs with
  | nil => exact .none
  | cons c r =>
      obtain rfl := h.cons
      simp only [readEscape]
      split
      · exact .none
      split
      · exact .some (.closed r)
      split
      · exact readWordBoundary_extended f (.closed r)
      split
      · exact .map _ (readProperty_extended f _ (.closed r))
      split
      · exact .map _ (readHex_extended f _ (.closed r))
      · exact .some (.closed r)
      · exact .some (.closed r)
      · exact .some (.closed r)
      · exact .none

end PageModel.Regex
