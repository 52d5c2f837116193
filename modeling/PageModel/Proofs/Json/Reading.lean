import Mathlib.Tactic.IntervalCases
import PageModel.Json.Print
import PageModel.Json.Read

/-!
# What is written is read back

A reader reads a value back if, wherever the text of the value stands, it gives the value and the
text after it (`ReadsBack`). Strings are read back character by character (`readChars_escapedChar`),
and sequences item by item (`readsBack_sequence`). What stands in a sequence, or where null may stand,
has to show from its first character that it is neither the end of the sequence nor null (`Opens`).
-/

namespace PageModel.Json

/-! ### Reading back -/

section

variable {α : Type}

/-- `ReadsBack r f` says that a reader reads what stands for a value back as the value. -/
def ReadsBack (r : Reader α) (f : α → Value) : Prop :=
  ∀ a rest, r ((f a).chars ++ rest) = .ok (a, rest)

/-- `Opens f` says that the values that `f` gives are strings or maps. -/
def Opens (f : α → Value) : Prop :=
  ∀ a, (∃ s, f a = .string s) ∨ ∃ members, f a = .object members

theorem skipSpace_cons {c : Char} (hc : isSpace c = false) (cs : List Char) :
  skipSpace (c :: cs) = c :: cs
  := by
  rw [skipSpace, List.dropWhile_cons, hc]
  rfl

/-- The text of a string or a map starts with its quote or its brace, not as null does, nor with white
space or the end of a sequence. -/
theorem Opens.exists_chars_eq {f : α → Value} (hf : Opens f) (a : α) :
  ∃ c cs, (f a).chars = c :: cs ∧ isSpace c = false ∧ c ≠ 'n' ∧ c ≠ ']'
  := by
  rcases hf a with ⟨s, hs⟩ | ⟨members, hm⟩
  · rw [hs, Value.chars]
    exact ⟨'"', s.toList.flatMap escapedChar ++ ['"'], rfl, rfl, by decide, by decide⟩
  · rw [hm, Value.chars]
    exact ⟨'\x7b', membersChars members ++ ['\x7d'], rfl, rfl, by decide, by decide⟩

end

theorem opens_string :
  Opens .string
  := by
  intro s
  left
  use s

theorem opens_object {α : Type} {f : α → Value} {members : α → List (String × Value)}
    (hf : ∀ a, f a = .object (members a)) :
  Opens f
  := by
  intro a
  right
  exact ⟨members a, hf a⟩

/-! ### Strings -/

theorem readChars_quote (rest : List Char) :
  readChars ('"' :: rest) = some ([], rest)
  := by
  rw [readChars]
  rfl

theorem readChars_escape {c : Char} {cs rest : List Char} (h : readEscape cs = some (c, rest)) :
  readChars ('\\' :: cs) = (readChars rest).map fun (s, after) => (c :: s, after)
  := by
  rw [readChars]
  simp only [show '\\' ≠ '"' by decide, if_false, if_true]
  split
  · next hnone => cases hnone.symm.trans h
  · next hsome =>
      cases hsome.symm.trans h
      rfl

theorem readChars_plain {c : Char} (hquote : c ≠ '"') (hslash : c ≠ '\\') (hc : ¬ c.toNat < 0x20)
    (rest : List Char) :
  readChars (c :: rest) = (readChars rest).map fun (s, after) => (c :: s, after)
  := by
  rw [readChars, if_neg hquote, if_neg hslash, if_neg hc]

/-- A control character is written in four digits of base 16. -/
theorem readEscape_hexUnitChars {n : Nat} (hn : n < 0x20) (rest : List Char) :
  readEscape ('u' :: (hexUnitChars n ++ rest)) = some (Char.ofNat n, rest)
  := by
  interval_cases n <;> rfl

/-- A character is read back from what it is written as. -/
theorem readChars_escapedChar (c : Char) (rest : List Char) :
  readChars (escapedChar c ++ rest) = (readChars rest).map fun (s, after) => (c :: s, after)
  := by
  unfold escapedChar
  split_ifs with hquote hslash hback hfeed hline hreturn htab hcontrol
  · rw [hquote]
    exact readChars_escape rfl
  · rw [hslash]
    exact readChars_escape rfl
  · rw [hback]
    exact readChars_escape rfl
  · rw [hfeed]
    exact readChars_escape rfl
  · rw [hline]
    exact readChars_escape rfl
  · rw [hreturn]
    exact readChars_escape rfl
  · rw [htab]
    exact readChars_escape rfl
  · have hunits := readEscape_hexUnitChars hcontrol rest
    rw [Char.ofNat_toNat] at hunits
    exact readChars_escape hunits
  · exact readChars_plain hquote hslash hcontrol rest

/-- A string is read back up to its last quote. -/
theorem readChars_flatMap (s rest : List Char) :
  readChars (s.flatMap escapedChar ++ '"' :: rest) = some (s, rest)
  := by
  induction s with
  | nil => exact readChars_quote rest
  | cons c s ih =>
      rw [List.flatMap_cons, List.append_assoc, readChars_escapedChar, ih]
      rfl

theorem stringChars_append (s : String) (rest : List Char) :
  stringChars s ++ rest = '"' :: (s.toList.flatMap escapedChar ++ '"' :: rest)
  := by
  rw [stringChars, List.append_assoc, List.append_assoc]
  rfl

theorem readString_stringChars (s : String) (rest : List Char) :
  readString (stringChars s ++ rest) = .ok (s, rest)
  := by
  rw [stringChars_append, readString, skipSpace_cons rfl]
  simp only [readChars_flatMap, String.ofList_toList]

theorem readName_stringChars (name : String) (rest : List Char) :
  readName (stringChars name ++ rest) = .ok (name, rest)
  := by
  rw [stringChars_append, readName, skipSpace_cons rfl]
  simp only [readChars_flatMap, orMalformed, Except.map, String.ofList_toList]

theorem readsBack_string :
  ReadsBack readString .string
  := by
  intro s rest
  rw [Value.chars]
  exact readString_stringChars s rest

theorem readsBack_boolean :
  ReadsBack readBoolean .boolean
  := by
  intro b rest
  rw [Value.chars]
  cases b with
  | false => rfl
  | true => rfl

/-! ### Optional values and sequences -/

theorem array_chars_append (items : List Value) (rest : List Char) :
  (Value.array items).chars ++ rest = '[' :: (itemsChars items ++ ']' :: rest)
  := by
  rw [Value.chars, List.append_assoc, List.append_assoc]
  rfl

section

variable {α : Type} {r : Reader α} {f : α → Value}

theorem readOptional_cons {c : Char} (hspace : isSpace c = false) (hc : c ≠ 'n') (cs : List Char) :
  readOptional r (c :: cs) = (r (c :: cs)).map fun (a, rest) => (some a, rest)
  := by
  rw [readOptional, skipSpace_cons hspace]
  split
  · next h => exact absurd (List.head_eq_of_cons_eq h) hc
  · rfl

/-- A value that is not null is read back where null may stand. -/
theorem readOptional_chars (hr : ReadsBack r f) (hf : Opens f) (a : α) (rest : List Char) :
  readOptional r ((f a).chars ++ rest) = .ok (some a, rest)
  := by
  have hread := hr a rest
  obtain ⟨c, cs, hcs, hspace, hnull, -⟩ := hf.exists_chars_eq a
  rw [hcs, List.cons_append] at hread ⊢
  rw [readOptional_cons hspace hnull, hread]
  rfl

theorem itemsChars_cons_cons (v w : Value) (vs : List Value) :
  itemsChars (v :: w :: vs) = v.chars ++ ',' :: itemsChars (w :: vs)
  := by
  rw [itemsChars, List.append_assoc]
  rfl

theorem itemsChars_singleton (v : Value) :
  itemsChars [v] = v.chars
  := by
  rw [itemsChars, itemsChars, List.append_nil, List.append_nil]

/-- Items are read back up to the bracket that closes their sequence, if each of them is. -/
theorem readItems_itemsChars (a : α) (as : List α)
    (hr : ∀ b ∈ a :: as, ∀ rest, r ((f b).chars ++ rest) = .ok (b, rest)) (rest : List Char)
    (fuel : Nat) (hfuel : as.length < fuel) :
  readItems r fuel (itemsChars ((a :: as).map f) ++ ']' :: rest) = .ok (a :: as, rest)
  := by
  obtain ⟨ha, has⟩ := List.forall_mem_cons.1 hr
  induction as generalizing a fuel with
  | nil =>
      obtain ⟨fuel, rfl⟩ := Nat.exists_eq_succ_of_ne_zero (Nat.ne_of_gt hfuel)
      rw [List.map_singleton, itemsChars_singleton, readItems, ha]
      rfl
  | cons b as ih =>
      obtain ⟨fuel, rfl⟩ := Nat.exists_eq_succ_of_ne_zero (Nat.ne_zero_of_lt hfuel)
      obtain ⟨hb, hrest⟩ := List.forall_mem_cons.1 has
      rw [List.map_cons, List.map_cons, itemsChars_cons_cons, List.append_assoc, List.cons_append,
        readItems, ha]
      simp only [skipSpace_cons (show isSpace ',' = false from rfl)]
      rw [← List.map_cons, ih b has fuel (Nat.lt_of_succ_lt_succ hfuel) hb hrest]
      rfl

/-- The text of items has a comma for each but the first. -/
theorem length_le_itemsChars (v : Value) (vs : List Value) :
  vs.length ≤ (itemsChars (v :: vs)).length
  := by
  induction vs generalizing v with
  | nil => exact Nat.zero_le _
  | cons w vs ih =>
      have hrest := ih w
      rw [itemsChars_cons_cons, List.length_append, List.length_cons, List.length_cons]
      omega

theorem exists_itemsChars_eq (v : Value) (vs : List Value) :
  ∃ more, itemsChars (v :: vs) = v.chars ++ more
  := by
  cases vs with
  | nil => exact ⟨[], (itemsChars_singleton v).trans (List.append_nil _).symm⟩
  | cons w vs => exact ⟨',' :: itemsChars (w :: vs), itemsChars_cons_cons v w vs⟩

theorem readOpenSequence_cons {c : Char} (hspace : isSpace c = false) (hc : c ≠ ']')
    (cs : List Char) :
  readOpenSequence r (c :: cs) = readItems r (c :: cs).length (c :: cs)
  := by
  rw [readOpenSequence, skipSpace_cons hspace]
  split
  · next h => exact absurd (List.head_eq_of_cons_eq h) hc
  · rfl

/-- What stands between the brackets of a sequence is read back, if the first character of each item
shows that the sequence does not end there. -/
theorem readOpenSequence_itemsChars {as : List α}
    (hr : ∀ a ∈ as, ∀ rest, r ((f a).chars ++ rest) = .ok (a, rest))
    (hf : ∀ a ∈ as, ∃ c cs, (f a).chars = c :: cs ∧ isSpace c = false ∧ c ≠ ']')
    (rest : List Char) :
  readOpenSequence r (itemsChars (as.map f) ++ ']' :: rest) = .ok (as, rest)
  := by
  cases as with
  | nil => rfl
  | cons a as =>
      have hlength := length_le_itemsChars (f a) (as.map f)
      rw [List.length_map] at hlength
      have hitems := readItems_itemsChars a as hr rest
        (itemsChars ((a :: as).map f) ++ ']' :: rest).length (by
          rw [List.map_cons, List.length_append, List.length_cons]
          omega)
      obtain ⟨more, hmore⟩ := exists_itemsChars_eq (f a) (as.map f)
      obtain ⟨c, cs, hcs, hspace, hclose⟩ := hf a List.mem_cons_self
      rw [List.map_cons, hmore, hcs, List.cons_append, List.cons_append] at hitems ⊢
      exact (readOpenSequence_cons hspace hclose _).trans hitems

/-- A sequence is read back if its items are. -/
theorem readsBack_sequence (hr : ReadsBack r f) (hf : Opens f) :
  ReadsBack (readSequence r) fun as => .array (as.map f)
  := by
  intro as rest
  rw [array_chars_append, readSequence, skipSpace_cons rfl]
  apply readOpenSequence_itemsChars
  · intro a _
    exact hr a
  · intro a _
    obtain ⟨c, cs, hcs, hspace, -, hclose⟩ := hf.exists_chars_eq a
    exact ⟨c, cs, hcs, hspace, hclose⟩

end

end PageModel.Json
