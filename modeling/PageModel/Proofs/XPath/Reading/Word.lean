import Mathlib.Data.List.TakeWhile
import Mathlib.Tactic.Use
import PageModel.Proofs.Unicode.Blank
import PageModel.Proofs.XPath.Grammar

/-!
# Reading names, literals and numbers

For each reader there are two lemmas: what it reads is a text of the grammar (`…_sound`), and of a
text of the grammar, followed by what cannot continue it, it reads exactly that text
(`…_complete`).
-/

namespace PageModel.XPath

/-! ### Where runs end -/

/-- Texts that start with no character of a class. -/
def StartsOutside (p : Char → Bool) (cs : List Char) : Prop :=
  ∀ c ∈ cs.head?, p c = false

theorem startsOutside_nil (p : Char → Bool) :
  StartsOutside p []
  := by
  intro c h
  cases h

theorem startsOutside_cons {p : Char → Bool} {c : Char} {cs : List Char} (h : p c = false) :
  StartsOutside p (c :: cs)
  := by
  intro d hd
  obtain rfl := Option.some_inj.1 hd
  exact h

/-- A text that starts with white space, or else with nothing of a class, does not start with
anything of that class, provided that white space is not in it. -/
theorem startsOutside_space {p : Char → Bool} (hp : ∀ c, Unicode.isBlank c = true → p c = false)
    {space rest : List Char} (hs : IsSpace space) (hr : StartsOutside p rest) :
  StartsOutside p (space ++ rest)
  := by
  cases space with
  | nil => exact hr
  | cons c space => exact startsOutside_cons (hp c (hs c List.mem_cons_self))

/-- The characters of a class before a text that starts with none are taken, all of them. -/
theorem takeWhile_run {p : Char → Bool} {run rest : List Char} (h : ∀ c ∈ run, p c = true)
    (hr : StartsOutside p rest) :
  (run ++ rest).takeWhile p = run
  := by
  rw [List.takeWhile_append_of_pos h]
  cases rest with
  | nil => exact List.append_nil run
  | cons c rest =>
      have hc : ¬ p c = true := Bool.eq_false_iff.1 (hr c rfl)
      rw [List.takeWhile_cons_of_neg hc, List.append_nil]

/-- The text after characters of a class is what is left when they are dropped. -/
theorem dropWhile_run {p : Char → Bool} {run rest : List Char} (h : ∀ c ∈ run, p c = true)
    (hr : StartsOutside p rest) :
  (run ++ rest).dropWhile p = rest
  := by
  rw [List.dropWhile_append_of_pos h]
  cases rest with
  | nil => rfl
  | cons c rest =>
      have hc : ¬ p c = true := Bool.eq_false_iff.1 (hr c rfl)
      exact List.dropWhile_cons_of_neg hc

theorem startsOutside_dropWhile (p : Char → Bool) (cs : List Char) :
  StartsOutside p (cs.dropWhile p)
  := by
  intro c hc
  have := List.head?_dropWhile_not p cs
  rw [Option.mem_def] at hc
  rw [hc] at this
  exact Bool.eq_false_iff.2 (by simpa using this)

/-! ### White space -/

theorem isSpace_nil :
  IsSpace []
  := by
  intro c h
  cases h

theorem IsSpace.append {space space' : List Char} (h : IsSpace space) (h' : IsSpace space') :
  IsSpace (space ++ space')
  := by
  intro c hc
  rcases List.mem_append.1 hc with hc | hc
  · exact h c hc
  · exact h' c hc

/-- A text that starts with a run of characters that are not white space starts with none. -/
theorem startsOutside_isBlank {p : Char → Bool} (hp : ∀ c, Unicode.isBlank c = true → p c = false)
    {run : List Char} (hne : run ≠ []) (h : ∀ c ∈ run, p c = true) (rest : List Char) :
  StartsOutside Unicode.isBlank (run ++ rest)
  := by
  cases run with
  | nil => exact absurd rfl hne
  | cons c run =>
      apply startsOutside_cons
      apply Bool.eq_false_iff.2
      intro hc
      have := h c List.mem_cons_self
      rw [hp c hc] at this
      cases this

theorem trimStart_space {space rest : List Char} (hs : IsSpace space)
    (hr : StartsOutside Unicode.isBlank rest) :
  Unicode.trimStart (space ++ rest) = rest
  := dropWhile_run hs hr

theorem trimStart_of_startsOutside {cs : List Char} (h : StartsOutside Unicode.isBlank cs) :
  Unicode.trimStart cs = cs
  := trimStart_space isSpace_nil h

/-- A text is white space and then what is left when that is trimmed. -/
theorem exists_space {cs rest : List Char} (h : Unicode.trimStart cs = rest) :
  ∃ space, IsSpace space ∧ cs = space ++ rest
  := by
  use cs.takeWhile Unicode.isBlank
  constructor
  · intro c hc
    exact List.mem_takeWhile_imp hc
  · rw [← h]
    exact List.takeWhile_append_dropWhile.symm

theorem isDigit_of_isBlank (c : Char) (h : Unicode.isBlank c = true) :
  c.isDigit = false
  := by
  simp only [Unicode.isBlank, Bool.or_eq_true, Bool.and_eq_true, decide_eq_true_eq, beq_iff_eq] at h
  apply Bool.eq_false_iff.2
  intro hd
  obtain ⟨hlo, hhi⟩ := Char.isDigit_iff_toNat.1 hd
  have h0 : '0'.toNat = 48 := rfl
  have h9 : '9'.toNat = 57 := rfl
  omega

theorem isNameChar_of_isBlank (c : Char) (h : Unicode.isBlank c = true) :
  isNameChar c = false
  := by
  simp only [isNameChar, Unicode.isAlphanumeric_of_isBlank h, Bool.false_or, Bool.or_eq_false_iff,
    decide_eq_false_iff_not]
  refine ⟨⟨?_, ?_⟩, ?_⟩ <;> rintro rfl <;> exact absurd h (by decide)

/-! ### Names -/

theorem eq_toList_of_ofList_eq {run : List Char} {s : String} (h : String.ofList run = s) :
  run = s.toList
  := by
  rw [← h, String.toList_ofList]

/-- Characters of names are a name if a name may start as they do. -/
theorem isNameText_of_all {run : List Char} (hname : isName run = true)
    (h : run.all isNameChar = true) :
  IsNameText run
  := by
  refine ⟨?_, List.all_eq_true.1 h, ?_⟩
  · rintro rfl
    cases hname
  · intro c hc
    cases run with
    | nil => cases hc
    | cons d run =>
        obtain rfl := Option.some_inj.1 hc
        simpa only [isName, Bool.not_eq_true'] using hname

/-- What is read as a name is one, at the start of the text. -/
theorem readName_sound {e : Reason} {cs rest : List Char} {name : String}
    (h : readName e cs = .ok (name, rest)) :
  ∃ run, IsNameText run ∧ cs = run ++ rest ∧ name = String.ofList run
  := by
  simp only [readName] at h
  split at h
  · next hname =>
    cases h
    use cs.takeWhile isNameChar
    refine ⟨isNameText_of_all hname ?_, List.takeWhile_append_dropWhile.symm, rfl⟩
    exact List.all_eq_true.2 fun c hc => List.mem_takeWhile_imp hc
  · cases h

/-- A name is read whole where no character of names follows it. -/
theorem readName_complete (e : Reason) {run rest : List Char} (h : IsNameText run)
    (hr : StartsOutside isNameChar rest) :
  readName e (run ++ rest) = .ok (String.ofList run, rest)
  := by
  have hname : isName run = true := by
    cases run with
    | nil => exact absurd rfl h.nonempty
    | cons c run =>
        have := h.first c rfl
        simp only [isName, this, Bool.not_false]
  simp only [readName, takeWhile_run h.chars hr, dropWhile_run h.chars hr, hname, if_true]

theorem IsNameText.startsOutside_isBlank {run : List Char} (h : IsNameText run)
    (rest : List Char) :
  StartsOutside Unicode.isBlank (run ++ rest)
  := XPath.startsOutside_isBlank isNameChar_of_isBlank h.nonempty h.chars rest

/-! ### Literals and numbers -/

/-- What is read as a literal is one, up to the quote that closes it. -/
theorem readLiteral_sound {cs rest : List Char} {value : String}
    (h : readLiteral cs = .ok (value, rest)) :
  ∃ text, IsLiteral text value ∧ cs = text ++ rest
  := by
  unfold readLiteral at h
  split at h
  · cases h
  · next q r =>
    split at h
    · next hq =>
      split at h
      · cases h
      · next d rest' hd =>
        have hstop := startsOutside_dropWhile (· != q) r d (by rw [hd]; rfl)
        obtain rfl : d = q := by simpa using hstop
        cases h
        use d :: r.takeWhile (· != d) ++ [d]
        constructor
        · apply IsLiteral.quoted hq
          intro hmem
          have := List.mem_takeWhile_imp hmem
          simp only [bne_self_eq_false, Bool.false_eq_true] at this
        · rw [List.append_assoc, List.cons_append, List.singleton_append, ← hd,
            List.takeWhile_append_dropWhile]
    · cases h

/-- A literal is read, whatever follows it. -/
theorem readLiteral_complete {text : List Char} {value : String} (h : IsLiteral text value)
    (rest : List Char) :
  readLiteral (text ++ rest) = .ok (value, rest)
  := by
  obtain ⟨hq, hfree⟩ := h
  next q value =>
  have hrun : ∀ c ∈ value, (c != q) = true := by
    intro c hc
    apply bne_iff_ne.2
    rintro rfl
    exact hfree hc
  have hstop : StartsOutside (· != q) (q :: rest) := startsOutside_cons (bne_self_eq_false q)
  have htext : q :: value ++ [q] ++ rest = q :: (value ++ q :: rest) := by
    rw [List.append_assoc, List.cons_append, List.singleton_append]
  rw [htext]
  simp only [readLiteral, if_pos hq, dropWhile_run hrun hstop, takeWhile_run hrun hstop]

theorem IsLiteral.startsOutside_isBlank {text : List Char} {value : String}
    (h : IsLiteral text value) (rest : List Char) :
  StartsOutside Unicode.isBlank (text ++ rest)
  := by
  obtain ⟨rfl | rfl, -⟩ := h <;> exact startsOutside_cons (by decide)

/-- A number that is read is a position, unless it is zero. -/
theorem readNumber_sound {cs rest : List Char} {n : Nat} (h : readNumber cs = some (n, rest))
    (hn : n ≠ 0) :
  ∃ text, IsPosition text n ∧ cs = text ++ rest
  := by
  simp only [readNumber] at h
  split at h
  · cases h
  · next hne =>
    split at h
    · next hlt =>
      cases h
      use cs.takeWhile Char.isDigit
      refine ⟨⟨?_, ?_, rfl, ?_, ?_⟩, List.takeWhile_append_dropWhile.symm⟩
      · intro hnil
        rw [hnil] at hne
        exact hne rfl
      · intro c hc
        exact List.mem_takeWhile_imp hc
      · exact Nat.one_le_iff_ne_zero.2 hn
      · exact hlt
    · cases h

/-- A position is read whole where no digit follows it. -/
theorem readNumber_complete {text rest : List Char} {n : Nat} (h : IsPosition text n)
    (hr : StartsOutside Char.isDigit rest) :
  readNumber (text ++ rest) = some (n, rest)
  := by
  have hne : text.isEmpty = false := List.isEmpty_eq_false_iff.2 h.nonempty
  have hlt : n < positionBound := h.bound
  simp only [readNumber, takeWhile_run h.chars hr, dropWhile_run h.chars hr, hne, h.value,
    if_pos hlt, Bool.false_eq_true, if_false]

theorem readNumber_eq_none {cs : List Char} (h : StartsOutside Char.isDigit cs) :
  readNumber cs = none
  := by
  have hnil : cs.takeWhile Char.isDigit = [] := by
    exact @takeWhile_run Char.isDigit [] cs (fun _ h => nomatch h) h
  simp only [readNumber, hnil, List.isEmpty_nil, if_true]

theorem dropPrefix?_append (start rest : List Char) :
  dropPrefix? start (start ++ rest) = some rest
  := by
  induction start with
  | nil => rfl
  | cons c start ih => simpa only [dropPrefix?, List.cons_append, if_true] using ih

theorem eq_append_of_dropPrefix? {start cs rest : List Char}
    (h : dropPrefix? start cs = some rest) :
  cs = start ++ rest
  := by
  fun_induction dropPrefix? start cs with
  | case1 cs =>
      cases h
      rfl
  | case2 => cases h
  | case3 ss c cs ih => rw [ih h, List.cons_append]
  | case4 => cases h

end PageModel.XPath
