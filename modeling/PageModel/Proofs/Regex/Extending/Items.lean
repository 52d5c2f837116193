import PageModel.Proofs.Regex.Extending.Class
import PageModel.Proofs.Regex.Reading

/-!
# Reading items with more after them

Groups, repetitions and atoms that are read of a text are read of the text with the closing after it,
and so are its items, up to the bracket that closes the group they stand in (`itemsExtended`).
-/

namespace PageModel.Regex

variable {f g : Flags} {st : ReadState} {cs cs' rest : List Char}

/-! ### Groups -/

theorem readFlags_append {seen : List Char} {value : Bool}
    (h : readFlags f seen value cs = some (g, rest)) :
  readFlags f seen value (cs ++ closing) = some (g, rest ++ closing)
  := by
  induction cs generalizing f seen value with
  | nil => cases h
  | cons c cs ih =>
      rw [List.cons_append]
      rw [readFlags] at h ⊢
      split
      · next hend =>
        rw [if_pos hend] at h
        split
        · next hdash =>
          rw [if_pos hdash] at h
          cases h
        · next hdash =>
          rw [if_neg hdash] at h
          cases h
          rfl
      next hend =>
      rw [if_neg hend] at h
      split
      · next hseen =>
        rw [if_pos hseen] at h
        cases h
      next hseen =>
      rw [if_neg hseen] at h
      split
      · next hdash =>
        rw [if_pos hdash] at h
        exact ih h
      · next hdash =>
        rw [if_neg hdash] at h
        cases hset : f.set? value c with
        | none =>
            rw [hset] at h
            cases h
        | some f =>
            rw [hset] at h
            exact ih h

theorem readGroupName_extended (h : Extended cs cs') :
  Extends (readGroupName cs) (readGroupName cs')
  := by
  cases hdrop : cs.dropWhile (· != '>') with
  | nil =>
      intro name rest hread
      rw [readGroupName, hdrop] at hread
      simp at hread
  | cons c rest =>
      have hcs' : cs' = cs ++ closing := by
        cases h with
        | closed => rfl
        | commented => cases hdrop
      obtain ⟨hdrop', htake⟩ := dropWhile_takeWhile_extended hdrop
      simp only [readGroupName, hcs', hdrop, hdrop', htake]
      cases cs.takeWhile (· != '>') with
      | nil => exact .none
      | cons first name =>
          simp only
          split
          · exact .some (.closed rest)
          · exact .none

/-- A start of a group, and the same start before the extended text. -/
inductive StartExtended : GroupStart → GroupStart → Prop where
  | flags (f : Flags) {rest rest' : List Char} (h : Extended rest rest') :
      StartExtended (.flags f rest) (.flags f rest')
  | group (index : Option Nat) (inner : ReadState) {rest rest' : List Char}
      (h : Extended rest rest') :
      StartExtended (.group index inner rest) (.group index inner rest')

theorem startNamedGroup_extended {start : GroupStart} (h : Extended cs cs')
    (hstart : startNamedGroup st cs = some start) :
  ∃ start', startNamedGroup st cs' = some start' ∧ StartExtended start start'
  := by
  unfold startNamedGroup at hstart
  cases hname : readGroupName cs with
  | none =>
      rw [hname] at hstart
      cases hstart
  | some found =>
      obtain ⟨name, rest⟩ := found
      obtain ⟨rest', hname', hrest⟩ := readGroupName_extended h name rest hname
      rw [hname] at hstart
      simp only at hstart
      split at hstart
      · cases hstart
      · next hnew =>
        cases hstart
        refine ⟨_, ?_, .group _ _ hrest⟩
        rw [startNamedGroup, hname']
        simp only [hnew]
        rfl

/-- What an opening bracket starts it starts before the extended text as well. -/
theorem startGroup_extended {start : GroupStart} (h : Extended cs cs')
    (hstart : startGroup st cs = some start) :
  ∃ start', startGroup st cs' = some start' ∧ StartExtended start start'
  := by
  have hskip := st.flags.skip_extended h
  unfold startGroup at hstart ⊢
  revert hskip hstart
  generalize st.flags.skip cs = cs
  generalize st.flags.skip cs' = cs'
  intro hstart h
  split at hstart
  · obtain rfl := h.cons
    exact startNamedGroup_extended (.closed _) hstart
  · next r =>
    obtain rfl := h.cons
    split at hstart
    · cases hstart
    · next hlook =>
      simp only [List.cons_append, head?_extended (show '=' ≠ ')' by decide) (.closed r),
        head?_extended (show '!' ≠ ')' by decide) (.closed r), if_neg hlook]
      exact startNamedGroup_extended (.closed _) hstart
  · next r hp hname =>
    obtain rfl := h.cons
    have hp' : ∀ s, r ++ closing ≠ 'P' :: '<' :: s := by
      intro s hs
      obtain ⟨t, rfl, ht⟩ := exists_cons_of_append_closing (show 'P' ≠ ')' by decide) hs
      obtain ⟨u, rfl, -⟩ := exists_cons_of_append_closing (show '<' ≠ ')' by decide) ht.symm
      exact hp u rfl
    have hname' : ∀ s, r ++ closing ≠ '<' :: s := by
      intro s hs
      obtain ⟨t, rfl, -⟩ := exists_cons_of_append_closing (show '<' ≠ ')' by decide) hs
      exact hname t rfl
    split
    · next heq => exact absurd (List.tail_eq_of_cons_eq heq) (hp' _)
    · next heq => exact absurd (List.tail_eq_of_cons_eq heq) (hname' _)
    · next heq =>
      obtain rfl := List.tail_eq_of_cons_eq heq
      cases hflags : readFlags st.flags [] true r with
      | none =>
          rw [hflags] at hstart
          cases hstart
      | some found =>
          obtain ⟨g, rest⟩ := found
          rw [readFlags_append hflags]
          rw [hflags] at hstart
          split at hstart
          · next heq =>
            cases heq
            cases hstart
            exact ⟨_, rfl, .group _ _ (.closed _)⟩
          · next heq =>
            cases heq
            split at hstart
            · cases hstart
            · next hempty =>
              cases hstart
              cases r with
              | nil => cases hflags
              | cons c r => exact ⟨_, if_neg hempty, .flags _ (.closed _)⟩
          · cases hstart
    · next hother => exact absurd rfl (hother (r ++ closing))
  · next hmark =>
    split
    · obtain ⟨r, rfl⟩ := h.cons_inv (by decide)
      exact absurd rfl (hmark r)
    · obtain ⟨r, rfl⟩ := h.cons_inv (by decide)
      exact absurd rfl (hmark r)
    · obtain ⟨r, rfl⟩ := h.cons_inv (by decide)
      exact absurd rfl (hmark r)
    · cases hstart
      exact ⟨_, rfl, .group _ _ h⟩

/-! ### Repetitions -/

theorem readCount_extended (f : Flags) (h : Extended cs cs') :
  Extends (readCount f cs) (readCount f cs')
  := by
  have hblank : Unicode.isBlank ')' = false := by decide +kernel
  obtain ⟨hdigits, hrest⟩ :=
    readRun_extended f (p := Char.isDigit) (dropWhile_extended hblank h) (.inl rfl)
  simp only [readCount, hdigits]
  split
  · exact .none
  · exact .some (readRun_extended f hrest (.inl hblank)).2

/-- The numbers of rounds after a comma. -/
def afterComma (f : Flags) (n : Nat) (cs : List Char) :
    Option ((Nat × Option Nat) × List Char) :=
  match cs with
  | '\x7d' :: rest => some ((n, none), rest)
  | r =>
      match readCount f r with
      | some (m, '\x7d' :: rest) => if n ≤ m then some ((n, some m), rest) else none
      | _ => none

theorem afterComma_extended (f : Flags) (n : Nat) (h : Extended cs cs') :
  Extends (afterComma f n cs) (afterComma f n cs')
  := by
  unfold afterComma
  split
  · obtain rfl := h.cons
    exact .some (.closed _)
  next hopen =>
  have hopen' : ∀ r, cs' ≠ '\x7d' :: r := by
    rintro r rfl
    obtain ⟨s, rfl⟩ := h.cons_inv (by decide)
    exact hopen s rfl
  cases hmax : readCount f cs with
  | none => exact .none
  | some found =>
      obtain ⟨m, rest⟩ := found
      obtain ⟨rest', hmax', hrest⟩ := readCount_extended f h m rest hmax
      split
      · next hfound =>
        cases hfound
        obtain rfl := hrest.cons
        split
        · next hle =>
          split
          · exact absurd rfl (hopen' _)
          · simp only [hmax', hle, if_true]
            exact .some (.closed _)
        · exact .none
      · exact .none

theorem readBounds_extended (f : Flags) (h : Extended cs cs') :
  Extends (readBounds f cs) (readBounds f cs')
  := by
  unfold readBounds
  cases hmin : readCount f (f.skip cs) with
  | none => exact .none
  | some found =>
      obtain ⟨n, rest⟩ := found
      obtain ⟨rest', hmin', hrest⟩ := readCount_extended f (f.skip_extended h) n rest hmin
      rw [hmin']
      split
      · exact .none
      · next hfound =>
        cases hfound
        obtain rfl := hrest.cons
        exact .some (.closed _)
      · next r hfound =>
        cases hfound
        obtain rfl := hrest.cons
        exact afterComma_extended f n (f.skip_extended (.closed r))
      · exact .none

theorem readLazy_extended {isLazy : Bool} (h : Extended cs cs')
    (hread : readLazy cs = (isLazy, rest)) :
  ∃ rest', readLazy cs' = (isLazy, rest') ∧ Extended rest rest'
  := by
  unfold readLazy at hread ⊢
  split at hread
  · cases hread
    obtain rfl := h.cons
    exact ⟨_, rfl, .closed rest⟩
  · next hmark =>
    cases hread
    split
    · obtain ⟨r, rfl⟩ := h.cons_inv (by decide)
      exact absurd rfl (hmark r)
    · exact ⟨cs', rfl, h⟩

theorem readRepetition_extended (f : Flags) {bounds : Nat × Option Nat} {isLazy : Bool}
    (h : Extended cs cs') (hread : readRepetition f cs = some (bounds, isLazy, rest)) :
  ∃ rest', readRepetition f cs' = some (bounds, isLazy, rest') ∧ Extended rest rest'
  := by
  cases cs with
  | nil => cases hread
  | cons c r =>
      obtain rfl := h.cons
      simp only [readRepetition] at hread ⊢
      cases hsign : signBounds? c with
      | some signed =>
          rw [hsign] at hread
          obtain ⟨rfl, hlazy⟩ := Prod.mk.inj (Option.some.inj hread)
          obtain ⟨rest', hlazy', hrest⟩ := readLazy_extended (.closed r) hlazy
          exact ⟨rest', by rw [hlazy'], hrest⟩
      | none =>
          rw [hsign] at hread
          obtain ⟨⟨counted, after⟩, hbounds, heq⟩ := Option.map_eq_some_iff.1 hread
          obtain ⟨rfl, hlazy⟩ := Prod.mk.inj heq
          obtain ⟨after', hbounds', hafter⟩ :=
            readBounds_extended f (.closed r) counted after hbounds
          obtain ⟨rest', hlazy', hrest⟩ := readLazy_extended (f.skip_extended hafter) hlazy
          exact ⟨rest', by simp only [hbounds', Option.map_some, hlazy'], hrest⟩

/-! ### Items -/

theorem readAtom_extended (f : Flags) (h : Extended cs cs') :
  Extends (readAtom f cs) (readAtom f cs')
  := by
  cases cs with
  | nil => exact .none
  | cons c r =>
      obtain rfl := h.cons
      by_cases hc : c = '\\'
      · subst hc
        simp only [readAtom]
        cases hescape : readEscape f r with
        | none => exact .none
        | some found =>
            obtain ⟨meant, rest⟩ := found
            obtain ⟨rest', hescape', hrest⟩ := readEscape_extended f (.closed r) meant rest hescape
            rw [hescape']
            cases meant <;> exact .some hrest
      · simp only [readAtom]
        split
        · exact .map _ (readClass_extended f (.closed r))
        split
        · exact .value _ (.closed r)
        split
        · exact .some (.closed r)
        split
        · exact .some (.closed r)
        · exact .some (.closed r)

/-- `ItemsExtended fuel fuel'` says that the items that are read of a text with one amount of fuel are
read of the extended text with another. -/
def ItemsExtended (fuel fuel' : Nat) : Prop :=
  ∀ ⦃st alts items cs cs' e after rest⦄, Extended cs cs' →
    readItems fuel st alts items cs = some (e, after, rest) →
    ∃ rest', readItems fuel' st alts items cs' = some (e, after, rest') ∧ Extended rest rest'

theorem afterStart_extended {fuel fuel' : Nat} (hitems : ItemsExtended fuel fuel')
    {alts : List Expr} {items : List (Option Expr)} {start start' : GroupStart} {e : Expr}
    {after : ReadState} (h : StartExtended start start')
    (hread : afterStart fuel st alts items start = some (e, after, rest)) :
  ∃ rest', afterStart fuel' st alts items start' = some (e, after, rest') ∧ Extended rest rest'
  := by
  cases h with
  | flags f h => exact hitems h hread
  | group index inner h =>
      simp only [afterStart] at hread
      split at hread
      · next hbody =>
        obtain ⟨rest', hbody', hrest⟩ := hitems h hbody
        obtain rfl := hrest.cons
        simp only [afterStart, hbody']
        exact hitems (.closed _) hread
      · cases hread

/-- The items that are read of a text are read of the extended text as well. -/
theorem itemsExtended {fuel fuel' : Nat} (hfuel : fuel ≤ fuel') :
  ItemsExtended fuel fuel'
  := by
  induction fuel generalizing fuel' with
  | zero =>
      intro st alts items cs cs' e after rest h hread
      cases hread
  | succ fuel ih =>
      intro st alts items cs cs' e after rest h hread
      obtain ⟨fuel', rfl⟩ : ∃ n, fuel' = n + 1 := ⟨fuel' - 1, by omega⟩
      have hitems : ItemsExtended fuel fuel' := ih (Nat.le_of_succ_le_succ hfuel)
      have hskip := st.flags.skip_extended h
      cases hcs : st.flags.skip cs with
      | nil =>
          rw [readItems, hcs] at hread
          cases hread
          rw [hcs] at hskip
          rcases hskip.of_nil with hcs' | hcs'
          · rw [readItems, hcs']
            exact ⟨closing, rfl, .closed []⟩
          · rw [readItems, hcs']
            exact ⟨[], rfl, .commented⟩
      | cons c r =>
          rw [hcs] at hskip
          have hcs' : st.flags.skip cs' = c :: (r ++ closing) := hskip.cons
          by_cases hopen : c = '('
          · subst hopen
            rw [readItems_start hcs] at hread
            obtain ⟨start, hstart, hread⟩ := Option.bind_eq_some_iff.1 hread
            obtain ⟨start', hstart', hsame⟩ := startGroup_extended (.closed r) hstart
            rw [readItems_start hcs', hstart']
            exact afterStart_extended hitems hsame hread
          rw [readItems, hcs] at hread
          rw [readItems, hcs']
          simp only [hopen, if_false] at hread ⊢
          split
          · next hclose =>
            rw [if_pos hclose] at hread
            cases hread
            exact ⟨_, rfl, .closed _⟩
          next hclose =>
          rw [if_neg hclose] at hread
          split
          · next hbar =>
            rw [if_pos hbar] at hread
            exact hitems (.closed r) hread
          next hbar =>
          rw [if_neg hbar] at hread
          split
          · next hsign =>
            rw [if_pos hsign] at hread
            split at hread
            · next hrepeat =>
              obtain ⟨rest', hrepeat', hrest⟩ :=
                readRepetition_extended st.flags (.closed (c :: r)) hrepeat
              rw [List.cons_append] at hrepeat'
              simp only [hrepeat']
              exact hitems hrest hread
            · cases hread
          next hsign =>
          rw [if_neg hsign] at hread
          cases hatom : readAtom st.flags (c :: r) with
          | none =>
              rw [hatom] at hread
              cases hread
          | some found =>
              obtain ⟨atom, after⟩ := found
              obtain ⟨after', hatom', hafter⟩ :=
                readAtom_extended st.flags (.closed (c :: r)) atom after hatom
              rw [List.cons_append] at hatom'
              rw [hatom] at hread
              rw [hatom']
              exact hitems hafter hread

end PageModel.Regex
