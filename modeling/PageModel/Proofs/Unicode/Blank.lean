import PageModel.Unicode.Blank
import PageModel.Unicode.CharClass

/-!
# White space is not alphanumeric

White space and the characters of names have no character in common (`isAlphanumeric_of_isBlank`).
Within the ASCII range this is computed. Beyond it there are few characters that are white space,
and it is enough that no row of the tables has a range with one of them; the ranges of a row are
listed in order for that, which is quicker than to ask the table.
-/

namespace PageModel.Unicode

/-! ### The ranges of a table -/

namespace RangeTable

/-- The ranges of a row in order, in the state of `readRanges`. -/
def rangesOf : List Char → (lo : Option Nat) → (n : Nat) → List (Nat × Nat)
  | [], lo, n => [(lo.getD n, n)]
  | c :: cs, lo, n =>
      if c = '-' then
        rangesOf cs (some n) 0
      else if c = ' ' then
        (lo.getD n, n) :: rangesOf cs none 0
      else
        rangesOf cs lo (16 * n + (hexDigit? c).getD 0)

theorem toList_readRanges (cs : List Char) (lo : Option Nat) (n : Nat)
    (acc : Array (Nat × Nat)) :
  (readRanges cs lo n acc).toList = acc.toList ++ rangesOf cs lo n
  := by
  induction cs generalizing lo n acc with
  | nil => simp only [readRanges, rangesOf, Array.toList_push]
  | cons c cs ih =>
      simp only [readRanges, rangesOf]
      split
      · apply ih
      · split
        · rw [ih, Array.toList_push, List.append_assoc]
          rfl
        · apply ih

/-- Each range of a table is one of a row. -/
theorem exists_row {rows : List String} {r : Nat × Nat} (h : r ∈ (ofRows rows).ranges) :
  ∃ row ∈ rows, r ∈ rangesOf row.toList none 0
  := by
  have hfold : ∀ (rows : List String) (acc : Array (Nat × Nat)),
      r ∈ rows.foldl (fun ranges row => readRanges row.toList none 0 ranges) acc →
      r ∈ acc ∨ ∃ row ∈ rows, r ∈ rangesOf row.toList none 0 := by
    intro rows
    induction rows with
    | nil =>
        intro acc h
        exact .inl h
    | cons row rows ih =>
        intro acc h
        rcases ih _ h with h | ⟨row', hmem, h⟩
        · rw [Array.mem_def, toList_readRanges, List.mem_append] at h
          rcases h with h | h
          · exact .inl (Array.mem_def.2 h)
          · exact .inr ⟨row, List.mem_cons_self, h⟩
        · exact .inr ⟨row', List.mem_cons_of_mem _ hmem, h⟩
  rcases hfold rows #[] h with h | h
  · exact absurd h (Array.not_mem_empty r)
  · exact h

/-- What is found between two indices lies in a range. -/
theorem exists_range {t : RangeTable} {n lo hi : Nat} (h : t.containsBetween n lo hi = true) :
  ∃ r ∈ t.ranges, r.1 ≤ n ∧ n ≤ r.2
  := by
  fun_induction containsBetween t n lo hi with
  | case1 => cases h
  | case2 lo hi hlt mid a b hr hn ih => exact ih h
  | case3 lo hi hlt mid a b hr ha hb ih => exact ih h
  | case4 lo hi hlt mid a b hr ha hb =>
      refine ⟨(a, b), Array.mem_of_getElem? hr, ?_⟩
      omega
  | case5 => cases h

/-- Whether no range of a row holds one of some numbers. -/
def avoids (ns : List Nat) (row : List Char) : Bool :=
  (rangesOf row none 0).all fun r => ns.all fun n => n < r.1 || r.2 < n

/-- Rows none of which has a range that holds one of some numbers. -/
inductive Avoids (ns : List Nat) : List String → Prop
  | nil : Avoids ns []
  | cons {row : List Char} {rows : List String} :
      avoids ns row = true → Avoids ns rows → Avoids ns (String.ofList row :: rows)

theorem Avoids.of_mem {ns : List Nat} {rows : List String} (h : Avoids ns rows) {row : String}
    (hmem : row ∈ rows) :
  avoids ns row.toList = true
  := by
  induction h with
  | nil => cases hmem
  | cons hrow _ ih =>
      rcases List.mem_cons.1 hmem with rfl | hmem
      · rwa [String.toList_ofList]
      · exact ih hmem

/-- A table with rows that avoid some numbers does not contain their characters. -/
theorem Avoids.contains_eq_false {ns : List Nat} {rows : List String} (h : Avoids ns rows)
    {c : Char} (hc : c.toNat ∈ ns) :
  (ofRows rows).contains c = false
  := by
  apply Bool.eq_false_iff.2
  intro hcontains
  obtain ⟨r, hr, hlo, hhi⟩ := exists_range hcontains
  obtain ⟨row, hrow, hmem⟩ := exists_row hr
  have hall := h.of_mem hrow
  simp only [avoids, List.all_eq_true, Bool.or_eq_true, decide_eq_true_eq] at hall
  have := hall r hmem c.toNat hc
  omega

end RangeTable

/-! ### White space beyond the ASCII range -/

/-- The code points of white space beyond the ASCII range. -/
def farBlanks : List Nat :=
  [0x85, 0xA0, 0x1680, 0x2028, 0x2029, 0x202F, 0x205F, 0x3000] ++ List.range' 0x2000 11

theorem mem_farBlanks {c : Char} (h : isBlank c = true) (hc : ¬ c.toNat < 128) :
  c.toNat ∈ farBlanks
  := by
  simp only [isBlank, Bool.or_eq_true, Bool.and_eq_true, decide_eq_true_eq, beq_iff_eq] at h
  simp only [farBlanks, List.mem_append, List.mem_range'_1, List.mem_cons, List.not_mem_nil]
  omega

theorem alphabeticTable_avoids {c : Char} (h : c.toNat ∈ farBlanks) :
  alphabeticTable.contains c = false
  := by
  apply RangeTable.Avoids.contains_eq_false ?_ h
  repeat apply RangeTable.Avoids.cons (by decide +kernel)
  exact .nil

theorem categoryNd_avoids {c : Char} (h : c.toNat ∈ farBlanks) :
  categoryNd.contains c = false
  := by
  apply RangeTable.Avoids.contains_eq_false ?_ h
  repeat apply RangeTable.Avoids.cons (by decide +kernel)
  exact .nil

theorem categoryNl_avoids {c : Char} (h : c.toNat ∈ farBlanks) :
  categoryNl.contains c = false
  := by
  apply RangeTable.Avoids.contains_eq_false ?_ h
  repeat apply RangeTable.Avoids.cons (by decide +kernel)
  exact .nil

theorem categoryNo_avoids {c : Char} (h : c.toNat ∈ farBlanks) :
  categoryNo.contains c = false
  := by
  apply RangeTable.Avoids.contains_eq_false ?_ h
  repeat apply RangeTable.Avoids.cons (by decide +kernel)
  exact .nil

/-! ### White space -/

/-- White space is not alphanumeric. -/
theorem isAlphanumeric_of_isBlank {c : Char} (h : isBlank c = true) :
  isAlphanumeric c = false
  := by
  unfold isAlphanumeric
  split
  · next hc =>
    have hnear : ∀ n < 128, isBlank (Char.ofNat n) = true → (Char.ofNat n).isAlphanum = false := by
      decide +kernel
    have := hnear c.toNat hc
    rw [Char.ofNat_toNat] at this
    exact this h
  · next hc =>
    have hfar := mem_farBlanks h hc
    rw [alphabeticTable_avoids hfar, categoryNd_avoids hfar, categoryNl_avoids hfar,
      categoryNo_avoids hfar]
    rfl

end PageModel.Unicode
