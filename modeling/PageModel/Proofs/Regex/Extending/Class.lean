import PageModel.Proofs.Regex.Extending.Escape

/-!
# Reading a class with more after it

A class in brackets that is read of a text is read of the text with the closing after it
(`readClass_extended`). What decides how its members are read is found at their start, and the closing
neither makes a named class nor an operation of what stands before it.
-/

namespace PageModel.Regex

variable {cs cs' : List Char}

/-! ### The start of a class -/

/-- The closing starts with no other character than its bracket, and hides none. -/
theorem head?_extended {c : Char} (hc : c ≠ ')') (h : Extended cs cs') :
  cs'.head? = some c ↔ cs.head? = some c
  := by
  cases h with
  | commented => rfl
  | closed =>
      cases cs with
      | nil =>
          constructor
          · intro h
            exact absurd (Option.some.inj h).symm hc
          · intro h
            cases h
      | cons d cs => rfl

theorem openingMembers_extended (f : Flags) (h : Extended cs cs') :
  (openingMembers f cs).1 = (openingMembers f cs').1 ∧
    Extended (openingMembers f cs).2 (openingMembers f cs').2
  := by
  obtain ⟨hdashes, hrest⟩ := readRun_extended f (p := (· = '-')) h (.inl rfl)
  unfold openingMembers
  revert hdashes hrest
  generalize readRun f _ cs = x
  generalize readRun f _ cs' = x'
  obtain ⟨_, rest⟩ := x
  obtain ⟨dashes, rest'⟩ := x'
  rintro rfl (hrest : Extended rest rest')
  cases dashes with
  | cons d dashes => exact ⟨rfl, hrest⟩
  | nil =>
      cases rest with
      | nil => rcases hrest.of_nil with rfl | rfl <;> exact ⟨rfl, hrest⟩
      | cons c rest =>
          obtain rfl := hrest.cons
          by_cases hc : c = ']'
          · subst hc
            exact ⟨rfl, f.skip_extended (.closed rest)⟩
          · simp only [List.cons.injEq, hc, false_and, imp_self, implies_true]
            exact ⟨trivial, hrest⟩

theorem openClass_extended (f : Flags) (h : Extended cs cs') :
  (openClass f cs).1 = (openClass f cs').1 ∧ (openClass f cs).2.1 = (openClass f cs').2.1 ∧
    Extended (openClass f cs).2.2 (openClass f cs').2.2
  := by
  have hskip := f.skip_extended h
  unfold openClass
  revert hskip
  generalize f.skip cs = cs
  generalize f.skip cs' = cs'
  intro h
  split
  · next r =>
    obtain rfl := h.cons
    exact ⟨rfl, openingMembers_extended f (f.skip_extended (.closed r))⟩
  · next hcaret =>
    split
    · obtain ⟨r, rfl⟩ := h.cons_inv (by decide)
      exact absurd rfl (hcaret r)
    · exact ⟨rfl, openingMembers_extended f h⟩

/-! ### Members -/

theorem drop_caret_append (cs : List Char) :
  (if cs.head? = some '^' then (cs ++ closing).drop 1 else cs ++ closing) =
    (if cs.head? = some '^' then cs.drop 1 else cs) ++ closing
  := by
  cases cs with
  | nil => rfl
  | cons c cs => split <;> rfl

/-- The closing holds no named class, nor does it make one of what stands before it. -/
theorem readNamedClass_append (cs : List Char) :
  readNamedClass (cs ++ closing) = (readNamedClass cs).map fun (s, rest) => (s, rest ++ closing)
  := by
  cases cs with
  | nil => rfl
  | cons c r =>
      by_cases hc : c = ':'
      · subst hc
        have hhead : (r ++ closing).head? = some '^' ↔ r.head? = some '^' :=
          head?_extended (by decide) (.closed r)
        simp only [readNamedClass, List.cons_append, hhead, drop_caret_append]
        generalize (if r.head? = some '^' then r.drop 1 else r) = name
        cases hdrop : name.dropWhile (· != ':') with
        | nil =>
            rw [List.dropWhile_append, hdrop]
            rfl
        | cons d rest =>
            obtain ⟨hdrop', htake⟩ := dropWhile_takeWhile_extended hdrop
            rw [hdrop', htake]
            by_cases hd : d = ':'
            · subst hd
              cases rest with
              | nil => rfl
              | cons b rest =>
                  by_cases hb : b = ']'
                  · subst hb
                    simp [Option.map_map, Function.comp_def]
                  · simp [hb]
            · simp [hd]
      · simp [readNamedClass, hc]

/-- The closing makes no operation of what stands before it. -/
theorem setOp?_append (cs : List Char) :
  setOp? (cs ++ closing) = (setOp? cs).map fun (op, rest) => (op, rest ++ closing)
  := by
  match cs with
  | [] => rfl
  | [c] => simp [setOp?, closing]
  | c :: d :: r =>
      unfold setOp?
      split
      · next h =>
        cases h
        rfl
      · next h =>
        cases h
        rfl
      · next h =>
        cases h
        rfl
      · next hinter hdifference hsymmetric =>
        split
        · next h =>
          cases h
          exact absurd rfl (hinter _)
        · next h =>
          cases h
          exact absurd rfl (hdifference _)
        · next h =>
          cases h
          exact absurd rfl (hsymmetric _)
        · rfl

theorem readMember_extended (f : Flags) (h : Extended cs cs') :
  Extends (readMember f cs) (readMember f cs')
  := by
  cases cs with
  | nil => exact .none
  | cons c r =>
      obtain rfl := h.cons
      by_cases hc : c = '\\'
      · subst hc
        exact readEscape_extended f (.closed r)
      · simp only [readMember]
        exact .some (.closed r)

theorem isLiteralDash_extended (f : Flags) (h : Extended cs cs') :
  isLiteralDash f cs' = isLiteralDash f cs
  := by
  have hskip := f.skip_extended h
  unfold isLiteralDash
  revert hskip
  generalize f.skip cs = cs
  generalize f.skip cs' = cs'
  intro h
  split
  · obtain ⟨r, rfl⟩ := h.cons_inv (by decide)
    rfl
  · obtain ⟨r, rfl⟩ := h.cons_inv (by decide)
    rfl
  · next hbracket hdash =>
    split
    · exact absurd h.cons (hbracket _)
    · exact absurd h.cons (hdash _)
    · rfl

/-- The set of a member that stands alone. -/
def Primitive.set? : Primitive → Option CharSet
  | .literal c => some (.single c)
  | .chars s => some s
  | .anchor _ => none

/-- What the first member of a range, or the only one, is read as by what stands after it. -/
def afterMember (f : Flags) (first : Primitive) (cs : List Char) : Option (CharSet × List Char) :=
  match f.skip cs with
  | [] => none
  | '-' :: r =>
      if isLiteralDash f r then first.set?.map (·, cs)
      else
        match first, readMember f (f.skip r) with
        | .literal a, some (.literal b, rest) => if a ≤ b then some (.range a b, rest) else none
        | _, _ => none
  | _ => first.set?.map (·, cs)

theorem readRange_eq (f : Flags) (cs : List Char) :
  readRange f cs = (readMember f cs).bind fun (first, rest) => afterMember f first rest
  := by
  unfold readRange
  cases readMember f cs with
  | none => rfl
  | some found =>
      obtain ⟨first, rest⟩ := found
      cases first <;> rfl

theorem afterMember_extended (f : Flags) (first : Primitive) (h : Extended cs cs') :
  Extends (afterMember f first cs) (afterMember f first cs')
  := by
  have hskip := f.skip_extended h
  unfold afterMember
  cases hcs : f.skip cs with
  | nil => exact .none
  | cons c r =>
      rw [hcs] at hskip
      rw [hskip.cons]
      by_cases hc : c = '-'
      · subst hc
        simp only
        rw [isLiteralDash_extended f (.closed r)]
        split
        · exact .value id h
        have hsecond := readMember_extended f (f.skip_extended (.closed r))
        cases hlast : readMember f (f.skip r) with
        | none => cases first <;> exact .none
        | some found =>
            obtain ⟨last, rest⟩ := found
            obtain ⟨rest', hlast', hrest⟩ := hsecond last rest hlast
            rw [hlast']
            cases first with
            | literal a =>
                cases last with
                | literal b =>
                    simp only
                    split
                    · exact .some hrest
                    · exact .none
                | _ => exact .none
            | _ => exact .none
      · simp only [List.cons.injEq, hc, false_and, imp_self, implies_true]
        exact .value id h

theorem readRange_extended (f : Flags) (h : Extended cs cs') :
  Extends (readRange f cs) (readRange f cs')
  := by
  rw [readRange_eq, readRange_eq]
  apply (readMember_extended f h).bind
  intro first rest rest' hrest
  exact afterMember_extended f first hrest

/-! ### Whole classes -/

theorem readClassItems_extended (f : Flags) {fuel fuel' : Nat} (hfuel : fuel ≤ fuel')
    (before : Option (SetOp × CharSet)) (items : List CharSet) (h : Extended cs cs') :
  Extends (readClassItems f fuel before items cs) (readClassItems f fuel' before items cs')
  := by
  induction fuel generalizing fuel' before items cs cs' with
  | zero => exact .none
  | succ fuel ih =>
      obtain ⟨fuel', rfl⟩ : ∃ n, fuel' = n + 1 := ⟨fuel' - 1, by omega⟩
      have hfuel : fuel ≤ fuel' := Nat.le_of_succ_le_succ hfuel
      have hskip := f.skip_extended h
      simp only [readClassItems]
      revert hskip
      generalize f.skip cs = cs
      generalize f.skip cs' = cs'
      intro h
      cases cs with
      | nil => exact .none
      | cons c r =>
          obtain rfl := h.cons
          by_cases hclose : c = ']'
          · subst hclose
            exact .some (.closed r)
          by_cases hopen : c = '['
          · subst hopen
            simp only
            rw [readNamedClass_append]
            cases hnamed : readNamedClass r with
            | some found =>
                obtain ⟨s, rest⟩ := found
                exact ih hfuel _ _ (.closed rest)
            | none =>
                obtain ⟨hnegated, hfirst, hbody⟩ := openClass_extended f (.closed r)
                simp only [Option.map_none]
                rw [← hnegated, ← hfirst]
                cases hinner : readClassItems f fuel none _ _ with
                | none => exact .none
                | some found =>
                    obtain ⟨s, rest⟩ := found
                    obtain ⟨rest', hinner', hrest⟩ := ih hfuel none _ hbody s rest hinner
                    rw [hinner']
                    exact ih hfuel _ _ hrest
          simp only
          rw [← List.cons_append, setOp?_append]
          cases hop : setOp? (c :: r) with
          | some found =>
              obtain ⟨op, rest⟩ := found
              exact ih hfuel _ _ (.closed rest)
          | none =>
              simp only [Option.map_none, hclose, if_false]
              cases hrange : readRange f (c :: r) with
              | none => exact .none
              | some found =>
                  obtain ⟨s, rest⟩ := found
                  obtain ⟨rest', hrange', hrest⟩ :=
                    readRange_extended f (.closed (c :: r)) s rest hrange
                  rw [hrange']
                  exact ih hfuel _ _ hrest

/-- A class that is read of a text is read of the extended text as well. -/
theorem readClass_extended (f : Flags) (h : Extended cs cs') :
  Extends (readClass f cs) (readClass f cs')
  := by
  obtain ⟨hnegated, hfirst, hbody⟩ := openClass_extended f h
  simp only [readClass]
  rw [hnegated, hfirst]
  cases hitems : readClassItems f _ none _ _ with
  | none => exact .none
  | some found =>
      obtain ⟨s, rest⟩ := found
      have hlength := Nat.succ_le_succ hbody.length_le
      obtain ⟨rest', hitems', hrest⟩ :=
        readClassItems_extended f hlength none _ hbody s rest hitems
      rw [hitems']
      simp only
      split
      · exact .none
      · exact .some hrest

end PageModel.Regex
