import PageModel.Json.Number

/-!
# JSON values

The members of an object are listed in the order of their names, once each, so that an object has
one list of members.
-/

namespace PageModel.Json

/-- A JSON value. -/
inductive Value where
  | null
  | boolean (b : Bool)
  | number (n : Number)
  | string (s : String)
  | array (items : List Value)
  | object (members : List (String × Value))
deriving Repr, Inhabited

/-! ### Members -/

section

variable {α : Type}

/-- Members in the order of their names with one more, which takes the place of one of its name. -/
def putMember (name : String) (value : α) : List (String × α) → List (String × α)
  | [] => [(name, value)]
  | (n, v) :: ms =>
      if name < n then (name, value) :: (n, v) :: ms
      else if n < name then (n, v) :: putMember name value ms
      else (name, value) :: ms

/-- The value of the member of a name. -/
def member? (name : String) (members : List (String × α)) : Option α :=
  members.lookup name

/-- Whether members are in the order of their names, once each. -/
def Ordered (members : List (String × α)) : Prop :=
  members.Pairwise fun a b => a.1 < b.1

end

/-! ### Equality -/

mutual

/-- Whether two values are equal; floating-point numbers are compared as numbers. -/
def Value.same : Value → Value → Bool
  | .null, .null => true
  | .boolean a, .boolean b => a == b
  | .number a, .number b => a.same b
  | .string a, .string b => a == b
  | .array as, .array bs => sameItems as bs
  | .object as, .object bs => sameMembers as bs
  | _, _ => false

/-- Whether two lists of values are equal. -/
def sameItems : List Value → List Value → Bool
  | [], [] => true
  | a :: as, b :: bs => a.same b && sameItems as bs
  | _, _ => false

/-- Whether two lists of members are equal. -/
def sameMembers : List (String × Value) → List (String × Value) → Bool
  | [], [] => true
  | (m, a) :: as, (n, b) :: bs => m == n && a.same b && sameMembers as bs
  | _, _ => false

end

/-! ### Ordered members -/

section

variable {α : Type}

/-- The names that a list of members has after one is put in. -/
theorem mem_putMember_iff (name : String) (value : α) (members : List (String × α))
    (p : String × α) (h : Ordered members) :
  p ∈ putMember name value members ↔ p = (name, value) ∨ (p ∈ members ∧ p.1 ≠ name)
  := by
  induction members with
  | nil => simp [putMember]
  | cons m ms ih =>
      obtain ⟨n, v⟩ := m
      have hms : Ordered ms := (List.pairwise_cons.mp h).2
      have hlt : ∀ q ∈ ms, n < q.1 := (List.pairwise_cons.mp h).1
      unfold putMember
      split
      · rename_i hn
        constructor
        · intro hp
          rcases List.mem_cons.mp hp with rfl | hp
          · exact .inl rfl
          · refine .inr ⟨hp, ?_⟩
            intro he
            rcases List.mem_cons.mp hp with rfl | hp
            · exact String.lt_irrefl _ (he ▸ hn)
            · exact String.lt_irrefl _ (String.lt_trans hn (he ▸ hlt p hp))
        · rintro (rfl | ⟨hp, _⟩)
          · exact List.mem_cons_self
          · exact List.mem_cons_of_mem _ hp
      · split
        · rename_i hn hn'
          rw [List.mem_cons, ih hms, List.mem_cons]
          constructor
          · rintro (rfl | rfl | ⟨hp, hne⟩)
            · exact .inr ⟨.inl rfl, fun he => String.lt_irrefl _ (he ▸ hn')⟩
            · exact .inl rfl
            · exact .inr ⟨.inr hp, hne⟩
          · rintro (rfl | ⟨rfl | hp, hne⟩)
            · exact .inr (.inl rfl)
            · exact .inl rfl
            · exact .inr (.inr ⟨hp, hne⟩)
        · rename_i hn hn'
          have he : n = name := String.le_antisymm hn hn'
          subst he
          rw [List.mem_cons, List.mem_cons]
          constructor
          · rintro (rfl | hp)
            · exact .inl rfl
            · exact .inr ⟨.inr hp, fun he => String.lt_irrefl _ (he ▸ hlt p hp)⟩
          · rintro (rfl | ⟨rfl | hp, hne⟩)
            · exact .inl rfl
            · exact absurd rfl hne
            · exact .inr hp

theorem member?_cons (name : String) (value : α) (members : List (String × α)) (other : String) :
  member? other ((name, value) :: members)
    = if other = name then some value else member? other members
  := by
  rw [member?, List.lookup_cons]
  split
  · next h => rw [if_pos (eq_of_beq h)]
  · next h => rw [if_neg (beq_eq_false_iff_ne.1 h), member?]

/-- The value of a member after one is put in. -/
theorem member?_putMember (name : String) (value : α) (members : List (String × α))
    (other : String) :
  member? other (putMember name value members)
    = if other = name then some value else member? other members
  := by
  induction members with
  | nil => exact member?_cons name value [] other
  | cons m ms ih =>
      obtain ⟨n, v⟩ := m
      unfold putMember
      split
      · exact member?_cons name value _ other
      · split
        · rename_i hn hn'
          rw [member?_cons, member?_cons, ih]
          by_cases h : other = n
          · have hne : other ≠ name := fun he => String.lt_irrefl n (by rwa [← he, h] at hn')
            rw [if_pos h, if_pos h, if_neg hne]
          · rw [if_neg h, if_neg h]
        · rename_i hn hn'
          obtain rfl : n = name := String.le_antisymm hn hn'
          rw [member?_cons, member?_cons]
          by_cases h : other = n
          · rw [if_pos h, if_pos h]
          · rw [if_neg h, if_neg h, if_neg h]

theorem isSome_member?_iff (name : String) (members : List (String × α)) :
  (member? name members).isSome = true ↔ name ∈ members.map (·.1)
  := by
  rw [member?, List.lookup_isSome_iff, List.mem_map]
  constructor
  · rintro ⟨m, hm, hname⟩
    exact ⟨m, hm, (eq_of_beq hname).symm⟩
  · rintro ⟨m, hm, rfl⟩
    exact ⟨m, hm, beq_self_eq_true _⟩

theorem ordered_putMember (name : String) (value : α) {members : List (String × α)}
    (h : Ordered members) :
  Ordered (putMember name value members)
  := by
  induction members with
  | nil => exact List.pairwise_singleton _ _
  | cons m ms ih =>
      obtain ⟨n, v⟩ := m
      have hms : Ordered ms := (List.pairwise_cons.mp h).2
      have hlt : ∀ q ∈ ms, n < q.1 := (List.pairwise_cons.mp h).1
      unfold putMember
      split
      · rename_i hn
        refine List.pairwise_cons.mpr ⟨?_, h⟩
        intro p hp
        rcases List.mem_cons.mp hp with rfl | hp
        · exact hn
        · exact String.lt_trans hn (hlt p hp)
      · split
        · rename_i hn hn'
          refine List.pairwise_cons.mpr ⟨?_, ih hms⟩
          intro p hp
          rcases (mem_putMember_iff name value ms p hms).mp hp with rfl | ⟨hp, _⟩
          · exact hn'
          · exact hlt p hp
        · rename_i hn hn'
          have he : n = name := String.le_antisymm hn hn'
          subst he
          exact List.pairwise_cons.mpr ⟨hlt, hms⟩

end

end PageModel.Json
