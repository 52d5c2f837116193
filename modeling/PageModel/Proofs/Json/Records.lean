import PageModel.Proofs.Json.Reading

/-!
# Records are read back

The members of a record lead from what was read before them to what has been read after them
(`Fills`), one by one, and the reader of the record does the same with their text
(`readRecord_of_fills`).
-/

namespace PageModel.Json

section

variable {σ : Type} {put : String → σ → Reader σ} {s t u : σ}

/-! ### Members -/

/-- `Fills put members s t` says that members, put in one after the other, lead from `s` to `t`. -/
inductive Fills (put : String → σ → Reader σ) : List (String × Value) → σ → σ → Prop where
  | nil (s : σ) : Fills put [] s s
  | cons {name : String} {v : Value} {members : List (String × Value)} {s t u : σ}
      (hput : ∀ rest, put name s (':' :: (v.chars ++ rest)) = .ok (t, rest))
      (h : Fills put members t u) : Fills put ((name, v) :: members) s u

theorem Fills.exists_of_cons {name : String} {v : Value} {members : List (String × Value)}
    (h : Fills put ((name, v) :: members) s u) :
  ∃ t, (∀ rest, put name s (':' :: (v.chars ++ rest)) = .ok (t, rest)) ∧ Fills put members t u
  := by
  cases h with
  | @cons _ _ _ _ t _ hput h => exact ⟨t, hput, h⟩

theorem Fills.append {members others : List (String × Value)} (h : Fills put members s t)
    (h' : Fills put others t u) :
  Fills put (members ++ others) s u
  := by
  induction h with
  | nil => exact h'
  | cons hput _ ih => exact .cons hput (ih h')

theorem membersChars_singleton (name : String) (v : Value) :
  membersChars [(name, v)] = stringChars name ++ ':' :: v.chars
  := by
  rw [membersChars, membersChars]
  simp

theorem membersChars_cons_cons (name : String) (v : Value) (m : String × Value)
    (members : List (String × Value)) :
  membersChars ((name, v) :: m :: members) =
    stringChars name ++ ':' :: (v.chars ++ ',' :: membersChars (m :: members))
  := by
  rw [membersChars]
  simp

theorem object_chars_append (members : List (String × Value)) (rest : List Char) :
  (Value.object members).chars ++ rest = '\x7b' :: (membersChars members ++ '\x7d' :: rest)
  := by
  rw [Value.chars, List.append_assoc, List.append_assoc]
  rfl

/-- The text of members has a comma for each but the first. -/
theorem length_le_membersChars (m : String × Value) (members : List (String × Value)) :
  members.length ≤ (membersChars (m :: members)).length
  := by
  induction members generalizing m with
  | nil => exact Nat.zero_le _
  | cons m' members ih =>
      obtain ⟨name, v⟩ := m
      have hrest := ih m'
      rw [membersChars_cons_cons]
      simp only [List.length_append, List.length_cons]
      omega

theorem exists_membersChars_eq (m : String × Value) (members : List (String × Value)) :
  ∃ more, membersChars (m :: members) = '"' :: more
  := by
  obtain ⟨name, v⟩ := m
  cases members with
  | nil =>
      rw [membersChars_singleton, stringChars_append]
      exact ⟨_, rfl⟩
  | cons m members =>
      rw [membersChars_cons_cons, stringChars_append]
      exact ⟨_, rfl⟩

/-- Members are read back up to the brace that closes their map. -/
theorem readMembers_of_fills {m : String × Value} {members : List (String × Value)}
    (h : Fills put (m :: members) s t) (rest : List Char) (fuel : Nat)
    (hfuel : members.length < fuel) :
  readMembers put fuel s (membersChars (m :: members) ++ '\x7d' :: rest) = .ok (t, rest)
  := by
  induction members generalizing m s fuel with
  | nil =>
      obtain ⟨fuel, rfl⟩ := Nat.exists_eq_succ_of_ne_zero (Nat.ne_of_gt hfuel)
      obtain ⟨name, v⟩ := m
      obtain ⟨_, hput, hnil⟩ := h.exists_of_cons
      cases hnil
      rw [membersChars_singleton, List.append_assoc, List.cons_append, readMembers,
        readName_stringChars]
      simp only [hput]
      rfl
  | cons m' members ih =>
      obtain ⟨fuel, rfl⟩ := Nat.exists_eq_succ_of_ne_zero (Nat.ne_zero_of_lt hfuel)
      obtain ⟨name, v⟩ := m
      obtain ⟨_, hput, hrest⟩ := h.exists_of_cons
      rw [membersChars_cons_cons, List.append_assoc, List.cons_append, List.append_assoc,
        List.cons_append, readMembers, readName_stringChars]
      simp only [hput, skipSpace_cons (show isSpace ',' = false from rfl)]
      exact ih hrest fuel (Nat.lt_of_succ_lt_succ hfuel)

/-- A map is read back after its opening brace. -/
theorem readOpenMap_of_fills {members : List (String × Value)} (h : Fills put members s t)
    (rest : List Char) :
  readOpenMap put s (membersChars members ++ '\x7d' :: rest) = .ok (t, rest)
  := by
  cases members with
  | nil =>
      cases h
      rw [membersChars]
      rfl
  | cons m members =>
      have hlength := length_le_membersChars m members
      have hread := readMembers_of_fills h rest
        (membersChars (m :: members) ++ '\x7d' :: rest).length (by
          rw [List.length_append, List.length_cons]
          omega)
      obtain ⟨more, hmore⟩ := exists_membersChars_eq m members
      rw [hmore, List.cons_append] at hread ⊢
      exact hread

end

/-! ### Records -/

section

variable {σ : Type} {members : List (Member σ)} {name : String} {s t u : σ}

/-- A record is read back if its members lead to what it is when those that are left out are filled
in. -/
theorem readRecord_of_fills {values : List (String × Value)}
    (h : Fills (putRecordMember members) values s t) (hfill : fillMembers members t = .ok u)
    (record : String) (rest : List Char) :
  readRecord record members s ((Value.object values).chars ++ rest) = .ok (u, rest)
  := by
  rw [object_chars_append, readRecord, skipSpace_cons rfl]
  simp only [readOpenMap_of_fills h, hfill]
  rfl

/-- A member that was not read before leads to what its reader makes of its value. -/
theorem Fills.member {m : Member σ} {v : Value}
    (hfind : (members.find? fun m => m.name == name) = some m) (hset : m.isSet s = false)
    (hread : ∀ rest, m.read s (v.chars ++ rest) = .ok (t, rest)) :
  Fills (putRecordMember members) [(name, v)] s t
  := by
  have hput (rest : List Char) :
      putRecordMember members name s (':' :: (v.chars ++ rest)) = .ok (t, rest) := by
    rw [putRecordMember, hfind]
    simp only [hset, Bool.false_eq_true, if_false, readColon,
      skipSpace_cons (show isSpace ':' = false from rfl), hread]
  exact .cons hput (.nil t)

end

end PageModel.Json
