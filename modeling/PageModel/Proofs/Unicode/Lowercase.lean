import PageModel.Html.Token
import PageModel.Unicode.Lowercase

/-!
# Lower case and the case of ASCII letters

The lower case of a text is the text itself up to the case of ASCII letters, if and only if its
characters beyond the ASCII range are lower case already (`sameIgnoringAsciiCase_lowercase_iff`). Other
texts have a lower case that no ASCII-caseless comparison takes for them, though it may be an ASCII
text, as that of the Kelvin sign is.
-/

namespace PageModel.Unicode

open Html

/-- Texts the characters of which beyond the ASCII range are lower case, or have no case. -/
def IsLowerBeyondAscii (cs : List Char) : Prop :=
  ∀ c ∈ cs, 128 ≤ c.toNat → lowercaseChar c = [c]

instance (cs : List Char) : Decidable (IsLowerBeyondAscii cs) :=
  List.decidableBAll _ cs

/-! ### Characters -/

/-- What holds of the first 128 characters holds of those within the ASCII range. -/
theorem of_forall_ascii {motive : Char → Prop} (h : ∀ n < 128, motive (Char.ofNat n)) {c : Char}
    (hc : c.toNat < 128) :
  motive c
  := by
  have hn := h c.toNat hc
  rwa [Char.ofNat_toNat] at hn

theorem asciiLower_of_le {c : Char} (h : 128 ≤ c.toNat) :
  asciiLower c = c
  := by
  rw [asciiLower, if_neg]
  rintro ⟨-, hle⟩
  have hz : c.toNat ≤ 90 := UInt32.le_iff_toNat_le.1 (Char.le_def.1 hle)
  omega

/-- Within the ASCII range the lower case is that of letters. -/
theorem lowercaseChar_of_lt {c : Char} (h : c.toNat < 128) :
  lowercaseChar c = [asciiLower c]
  := by
  apply of_forall_ascii _ h
  decide +kernel

theorem asciiLower_asciiLower (c : Char) :
  asciiLower (asciiLower c) = asciiLower c
  := by
  rcases Nat.lt_or_ge c.toNat 128 with hnear | hfar
  · apply of_forall_ascii _ hnear
    decide +kernel
  · rw [asciiLower_of_le hfar, asciiLower_of_le hfar]

theorem toNat_asciiLower_lt {c : Char} (h : c.toNat < 128) :
  (asciiLower c).toNat < 128
  := by
  apply of_forall_ascii _ h
  decide +kernel

/-- No other character becomes one beyond the ASCII range. -/
theorem asciiLower_eq_iff {c d : Char} (h : 128 ≤ c.toNat) :
  asciiLower d = c ↔ d = c
  := by
  constructor
  · rintro rfl
    rcases Nat.lt_or_ge d.toNat 128 with hnear | hfar
    · have hlt := toNat_asciiLower_lt hnear
      omega
    · exact (asciiLower_of_le hfar).symm
  · rintro rfl
    exact asciiLower_of_le h

/-! ### Texts -/

/-- The first character of a text is its own lower case up to the case of ASCII letters if it is within
the ASCII range or lower case already, whatever the context makes of it. -/
theorem map_lowercaseFrom_cons_iff (before : List Char) (c : Char) (cs : List Char) :
  (lowercaseFrom before (c :: cs)).map asciiLower = (c :: cs).map asciiLower
    ↔ (128 ≤ c.toNat → lowercaseChar c = [c]) ∧
      (lowercaseFrom (c :: before) cs).map asciiLower = cs.map asciiLower
  := by
  by_cases hsigma : c = 'Σ'
  · subst hsigma
    have hchanges : ¬ (128 ≤ 'Σ'.toNat → lowercaseChar 'Σ' = ['Σ']) := by decide +kernel
    rw [lowercaseFrom, if_pos rfl, List.map_cons, List.map_cons, List.cons.injEq]
    constructor
    · rintro ⟨hhead, -⟩
      split at hhead
      · exact absurd hhead (by decide)
      · exact absurd hhead (by decide)
    · exact fun h => absurd h.1 hchanges
  · rw [lowercaseFrom, if_neg hsigma, List.map_append]
    rcases Nat.lt_or_ge c.toNat 128 with hnear | hfar
    · have hfar : ¬ 128 ≤ c.toNat := Nat.not_le_of_lt hnear
      rw [lowercaseChar_of_lt hnear, List.map_singleton, List.singleton_append, List.map_cons,
        asciiLower_asciiLower, List.cons.injEq]
      simp [hfar]
    · have hhead (d : Char) : asciiLower d = asciiLower c ↔ d = c := by
        rw [asciiLower_of_le hfar]
        apply asciiLower_eq_iff hfar
      unfold lowercaseChar
      split
      · next hdotted =>
        subst hdotted
        simp [hhead]
      · simp [hhead, hfar]

/-- A text is its own lower case up to the case of ASCII letters if and only if its characters beyond
the ASCII range are lower case already. -/
theorem sameIgnoringAsciiCase_lowercase_iff (cs : List Char) :
  sameIgnoringAsciiCase cs (lowercase cs) = true ↔ IsLowerBeyondAscii cs
  := by
  have hfrom (before : List Char) :
      (lowercaseFrom before cs).map asciiLower = cs.map asciiLower ↔ IsLowerBeyondAscii cs := by
    induction cs generalizing before with
    | nil => simp [lowercaseFrom, IsLowerBeyondAscii]
    | cons c cs ih =>
        rw [map_lowercaseFrom_cons_iff, ih, IsLowerBeyondAscii, IsLowerBeyondAscii,
          List.forall_mem_cons]
  rw [sameIgnoringAsciiCase, decide_eq_true_iff, eq_comm]
  apply hfrom

end PageModel.Unicode
