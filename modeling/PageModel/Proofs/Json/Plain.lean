import Mathlib.Tactic.Use
import PageModel.Proofs.Json.Records

/-!
# Values without numbers

The text of a value without numbers is read back as the value, wherever it stands, unless too many
brackets are open (`Plain.readValue_chars`), and no other value has a text that starts in the same way
(`Plain.isLegible`). The first character of a text shows which kind of value it belongs to
(`Value.exists_chars_eq`), and between brackets the values are kept apart by commas (`separated`).
-/

namespace PageModel.Json

/-- Values without numbers, in which at most `depth` brackets and braces are open at a time. -/
inductive Plain : (depth : Nat) → Value → Prop where
  | null (depth : Nat) : Plain depth .null
  | boolean (depth : Nat) (b : Bool) : Plain depth (.boolean b)
  | string (depth : Nat) (s : String) : Plain depth (.string s)
  | array {depth : Nat} {items : List Value} (h : ∀ v ∈ items, Plain depth v) :
      Plain (depth + 1) (.array items)
  | object {depth : Nat} {members : List (String × Value)} (hordered : Ordered members)
      (h : ∀ m ∈ members, Plain depth m.2) : Plain (depth + 1) (.object members)

/-! ### The first character of a text -/

/-- A character that shows the kind of a value: the first one of its text, where a zero stands for all
that the text of a number may start with, and a `t` for both truth values. -/
def Value.sign : Value → Char
  | .null => 'n'
  | .boolean _ => 't'
  | .number _ => '0'
  | .string _ => '"'
  | .array _ => '['
  | .object _ => '\x7b'

/-- The sign of the values whose texts start with a character. -/
def signOf (c : Char) : Char :=
  if c.isDigit || c = '-' then '0' else if c = 'f' then 't' else c

theorem exists_digits_eq (n : Nat) :
  ∃ c cs, digits n = c :: cs ∧ c.isDigit = true
  := by
  cases h : digits n with
  | nil => exact absurd h Nat.toDigits_ne_nil
  | cons c cs =>
      have hmem : c ∈ Nat.toDigits 10 n := by
        rw [← digits, h]
        exact List.mem_cons_self
      use c, cs, rfl
      apply Nat.isDigit_of_mem_toDigits _ _ hmem <;> decide

theorem exists_decimalChars_eq (d : Decimal) :
  ∃ c cs, decimalChars d = c :: cs ∧ c.isDigit = true
  := by
  obtain ⟨c, cs, hdigits, hc⟩ := exists_digits_eq d.digits
  unfold decimalChars
  simp only [hdigits]
  split
  · exact ⟨c, _, rfl, hc⟩
  · split
    · next hpoint =>
        obtain ⟨n, hn⟩ := Int.eq_succ_of_zero_lt hpoint.1
        rw [hn]
        exact ⟨c, _, rfl, hc⟩
    · split
      · exact ⟨'0', _, rfl, rfl⟩
      · exact ⟨c, _, rfl, hc⟩

theorem Number.exists_chars_eq (n : Number) :
  ∃ c cs, n.chars = c :: cs ∧ signOf c = '0'
  := by
  have hdigit {c : Char} (hc : c.isDigit = true) : signOf c = '0' := by
    rw [signOf, hc]
    rfl
  cases n with
  | integer n =>
      obtain ⟨c, cs, hdigits, hc⟩ := exists_digits_eq n.natAbs
      rw [Number.chars, integerChars, hdigits]
      split
      · exact ⟨'-', _, rfl, rfl⟩
      · exact ⟨c, cs, rfl, hdigit hc⟩
  | decimal x =>
      obtain ⟨c, cs, hdecimal, hc⟩ := exists_decimalChars_eq x.shortest
      rw [Number.chars, binary64Chars, hdecimal]
      cases x.negative with
      | true => exact ⟨'-', _, rfl, rfl⟩
      | false =>
          cases x.isZero with
          | true => exact ⟨'0', _, rfl, rfl⟩
          | false => exact ⟨c, cs, rfl, hdigit hc⟩

/-- The first character of the text of a value shows its sign. -/
theorem Value.exists_chars_eq (v : Value) :
  ∃ c cs, v.chars = c :: cs ∧ signOf c = v.sign
  := by
  cases v with
  | number n => exact n.exists_chars_eq
  | boolean b => cases b <;> exact ⟨_, _, rfl, rfl⟩
  | _ => exact ⟨_, _, rfl, rfl⟩

/-- No value has a text that starts with white space or with what closes an array. -/
theorem Value.exists_opening (v : Value) :
  ∃ c cs, v.chars = c :: cs ∧ isSpace c = false ∧ c ≠ ']'
  := by
  obtain ⟨c, cs, hcs, hc⟩ := v.exists_chars_eq
  have hsign : signOf c ∈ ['n', 't', '0', '"', '[', '\x7b'] := by
    rw [hc]
    cases v <;> simp [Value.sign]
  use c, cs, hcs
  constructor
  · apply Bool.eq_false_iff.2
    intro hspace
    simp only [isSpace, Bool.or_eq_true, decide_eq_true_eq] at hspace
    rcases hspace with ((rfl | rfl) | rfl) | rfl <;> revert hsign <;> decide
  · rintro rfl
    revert hsign
    decide

theorem Value.sign_eq_of_chars {v w : Value} {r r' : List Char}
    (h : v.chars ++ r = w.chars ++ r') :
  v.sign = w.sign
  := by
  obtain ⟨c, cs, hv, hc⟩ := v.exists_chars_eq
  obtain ⟨d, ds, hw, hd⟩ := w.exists_chars_eq
  rw [hv, hw] at h
  rw [← hc, ← hd, List.head_eq_of_cons_eq h]

/-! ### Texts with commas between them -/

section

variable {α : Type} {text : α → List Char} {close : Char}

/-- The texts of a list with commas between them. -/
def separated (text : α → List Char) : List α → List Char
  | [] => []
  | [a] => text a
  | a :: b :: as => text a ++ ',' :: separated text (b :: as)

/-- The texts of a list tell what the list is, if each text tells what it belongs to and where it ends,
and none starts with what closes the list. -/
theorem separated_inj (hcomma : close ≠ ',')
    (hopens : ∀ a, ∃ c cs, text a = c :: cs ∧ c ≠ close) {as bs : List α}
    (htext : ∀ a ∈ as, ∀ b r r', text a ++ r = text b ++ r' → a = b ∧ r = r') {r r' : List Char}
    (h : separated text as ++ close :: r = separated text bs ++ close :: r') :
  as = bs ∧ r = r'
  := by
  have hnil {r : List Char} {a : α} {as : List α} {more : List Char} :
      separated text (a :: as) ++ more ≠ close :: r := by
    obtain ⟨c, cs, ha, hc⟩ := hopens a
    intro hcons
    cases as <;> rw [separated, ha] at hcons <;> exact hc (List.head_eq_of_cons_eq hcons)
  induction as generalizing bs with
  | nil =>
      cases bs with
      | nil => exact ⟨rfl, List.tail_eq_of_cons_eq h⟩
      | cons b bs => exact absurd h.symm hnil
  | cons a as ih =>
      obtain ⟨ha, has⟩ := List.forall_mem_cons.1 htext
      cases bs with
      | nil => exact absurd h hnil
      | cons b bs =>
          match as, bs with
          | [], [] =>
              obtain ⟨rfl, hrest⟩ := ha b _ _ h
              exact ⟨rfl, List.tail_eq_of_cons_eq hrest⟩
          | [], b' :: bs =>
              rw [separated, separated, List.append_assoc] at h
              obtain ⟨-, hrest⟩ := ha b _ _ h
              exact absurd (List.head_eq_of_cons_eq hrest) hcomma
          | a' :: as, [] =>
              rw [separated, separated, List.append_assoc] at h
              obtain ⟨-, hrest⟩ := ha b _ _ h
              exact absurd (List.head_eq_of_cons_eq hrest).symm hcomma
          | a' :: as, b' :: bs =>
              rw [separated, separated, List.append_assoc, List.append_assoc] at h
              obtain ⟨rfl, hrest⟩ := ha b _ _ h
              obtain ⟨hlist, hr⟩ := ih has (List.tail_eq_of_cons_eq hrest)
              rw [hlist]
              exact ⟨rfl, hr⟩

end

theorem itemsChars_eq_separated (vs : List Value) :
  itemsChars vs = separated Value.chars vs
  := by
  induction vs with
  | nil => rfl
  | cons v vs ih =>
      cases vs with
      | nil => exact itemsChars_singleton v
      | cons w vs => rw [itemsChars_cons_cons, ih, separated]

/-- The text of a member. -/
def memberChars (m : String × Value) : List Char :=
  stringChars m.1 ++ ':' :: m.2.chars

theorem membersChars_eq_separated (members : List (String × Value)) :
  membersChars members = separated memberChars members
  := by
  induction members with
  | nil => rfl
  | cons m members ih =>
      obtain ⟨name, v⟩ := m
      cases members with
      | nil => exact membersChars_singleton name v
      | cons m members =>
          rw [membersChars_cons_cons, ih, separated, memberChars, List.append_assoc,
            List.cons_append]

/-! ### Texts that tell the value -/

/-- Whether no other value has a text that starts as that of a value does. -/
def Value.IsLegible (v : Value) : Prop :=
  ∀ w r r', v.chars ++ r = w.chars ++ r' → v = w ∧ r = r'

theorem stringChars_inj {s t : String} {r r' : List Char}
    (h : stringChars s ++ r = stringChars t ++ r') :
  s = t ∧ r = r'
  := by
  have hread := readString_stringChars s r
  rw [h, readString_stringChars] at hread
  obtain ⟨rfl, rfl⟩ := Prod.mk.inj (Except.ok.inj hread)
  exact ⟨rfl, rfl⟩

theorem memberChars_inj {m n : String × Value} (hm : m.2.IsLegible) {r r' : List Char}
    (h : memberChars m ++ r = memberChars n ++ r') :
  m = n ∧ r = r'
  := by
  obtain ⟨name, v⟩ := m
  obtain ⟨name', w⟩ := n
  rw [memberChars, memberChars, List.append_assoc, List.append_assoc] at h
  obtain ⟨rfl, hrest⟩ := stringChars_inj h
  obtain ⟨rfl, rfl⟩ := hm w r r' (List.tail_eq_of_cons_eq hrest)
  exact ⟨rfl, rfl⟩

theorem isLegible_null :
  Value.null.IsLegible
  := by
  intro w r r' h
  have hsign := Value.sign_eq_of_chars h
  cases w with
  | null => exact ⟨rfl, List.append_cancel_left h⟩
  | _ => cases hsign

theorem isLegible_boolean (b : Bool) :
  (Value.boolean b).IsLegible
  := by
  intro w r r' h
  have hsign := Value.sign_eq_of_chars h
  cases w with
  | boolean b' =>
      cases b <;> cases b'
      · exact ⟨rfl, List.append_cancel_left h⟩
      · exact absurd (List.head_eq_of_cons_eq h) (by decide)
      · exact absurd (List.head_eq_of_cons_eq h) (by decide)
      · exact ⟨rfl, List.append_cancel_left h⟩
  | _ => cases hsign

theorem isLegible_string (s : String) :
  (Value.string s).IsLegible
  := by
  intro w r r' h
  have hsign := Value.sign_eq_of_chars h
  cases w with
  | string t =>
      obtain ⟨rfl, rfl⟩ := stringChars_inj h
      exact ⟨rfl, rfl⟩
  | _ => cases hsign

/-- An array is legible if its items are, since none of them starts with the bracket that closes it. -/
theorem isLegible_array {items : List Value} (hitems : ∀ v ∈ items, v.IsLegible) :
  (Value.array items).IsLegible
  := by
  intro w r r' h
  have hsign := Value.sign_eq_of_chars h
  cases w with
  | array items' =>
      have hopens (w : Value) : ∃ c cs, w.chars = c :: cs ∧ c ≠ ']' := by
        obtain ⟨c, cs, hcs, -, hclose⟩ := w.exists_opening
        use c, cs, hcs
      rw [array_chars_append, array_chars_append, itemsChars_eq_separated,
        itemsChars_eq_separated] at h
      obtain ⟨rfl, rfl⟩ := separated_inj (by decide) hopens hitems (List.tail_eq_of_cons_eq h)
      exact ⟨rfl, rfl⟩
  | _ => cases hsign

/-- An object is legible if the values of its members are. -/
theorem isLegible_object {members : List (String × Value)}
    (hmembers : ∀ m ∈ members, m.2.IsLegible) :
  (Value.object members).IsLegible
  := by
  intro w r r' h
  have hsign := Value.sign_eq_of_chars h
  cases w with
  | object members' =>
      have hopens (m : String × Value) : ∃ c cs, memberChars m = c :: cs ∧ c ≠ '\x7d' := by
        rw [memberChars, stringChars_append]
        exact ⟨'"', _, rfl, by decide⟩
      have htext (m : String × Value) (hm : m ∈ members) (n : String × Value) (r r' : List Char)
          (h : memberChars m ++ r = memberChars n ++ r') : m = n ∧ r = r' :=
        memberChars_inj (hmembers m hm) h
      rw [object_chars_append, object_chars_append, membersChars_eq_separated,
        membersChars_eq_separated] at h
      obtain ⟨rfl, rfl⟩ := separated_inj (by decide) hopens htext (List.tail_eq_of_cons_eq h)
      exact ⟨rfl, rfl⟩
  | _ => cases hsign

/-- A value without numbers is told by its text. -/
theorem Plain.isLegible {depth : Nat} {v : Value} (h : Plain depth v) :
  v.IsLegible
  := by
  induction h with
  | null _ => apply isLegible_null
  | boolean _ b => apply isLegible_boolean
  | string _ s => apply isLegible_string
  | array _ ih => apply isLegible_array ih
  | object _ _ ih => apply isLegible_object ih

/-! ### Values that are read back -/

/-- A member whose name comes after all others is put at the end. -/
theorem putMember_eq_append {α : Type} {name : String} {members : List (String × α)}
    (h : ∀ m ∈ members, m.1 < name) (value : α) :
  putMember name value members = members ++ [(name, value)]
  := by
  induction members with
  | nil => rfl
  | cons m members ih =>
      obtain ⟨hlt, hmembers⟩ := List.forall_mem_cons.1 h
      have hnot : ¬ name < m.1 := fun hlt' => String.lt_irrefl _ (String.lt_trans hlt hlt')
      rw [putMember, if_neg hnot, if_pos hlt, ih hmembers, List.cons_append]

/-- Ordered members that are read one after the other are listed as they stand. -/
theorem fills_putMember {put : String → List (String × Value) → Reader (List (String × Value))}
    (before : List (String × Value)) {members : List (String × Value)}
    (hordered : Ordered (before ++ members))
    (hput : ∀ m ∈ members, ∀ before rest,
      put m.1 before (':' :: (m.2.chars ++ rest)) = .ok (putMember m.1 m.2 before, rest)) :
  Fills put members before (before ++ members)
  := by
  induction members generalizing before with
  | nil =>
      rw [List.append_nil]
      exact .nil before
  | cons m members ih =>
      obtain ⟨hm, hmembers⟩ := List.forall_mem_cons.1 hput
      have hbefore : ∀ n ∈ before, n.1 < m.1 := by
        intro n hn
        exact (List.pairwise_append.1 hordered).2.2 n hn m List.mem_cons_self
      have hput := putMember_eq_append hbefore m.2
      rw [List.append_cons] at hordered ⊢
      apply Fills.cons _ (ih _ hordered hmembers)
      intro rest
      rw [hm, hput]

/-- The text of a value without numbers is read back as the value. -/
theorem Plain.readValue_chars {depth : Nat} {v : Value} (h : Plain depth v) (rest : List Char) :
  readValue depth (v.chars ++ rest) = .ok (v, rest)
  := by
  induction h generalizing rest with
  | null depth =>
      rw [readValue.eq_def]
      rfl
  | boolean depth b =>
      rw [readValue.eq_def]
      cases b <;> rfl
  | string depth s =>
      rw [Value.chars, stringChars_append, readValue.eq_def]
      simp only [skipSpace_cons (show isSpace '"' = false from rfl), readChars_flatMap, orMalformed,
        Except.map, String.ofList_toList]
  | @array depth items _ ih =>
      have hread : readOpenSequence (readValue depth) (itemsChars (items.map id) ++ ']' :: rest)
          = .ok (items, rest) := by
        apply readOpenSequence_itemsChars ih
        intro v _
        apply v.exists_opening
      rw [List.map_id] at hread
      rw [array_chars_append, readValue.eq_def]
      simp only [skipSpace_cons (show isSpace '[' = false from rfl), hread]
      rfl
  | @object depth members hordered _ ih =>
      rw [object_chars_append, readValue.eq_def]
      simp only [skipSpace_cons (show isSpace '\x7b' = false from rfl)]
      rw [readOpenMap_of_fills (t := members)]
      · rfl
      · apply fills_putMember [] hordered
        intro m hm before rest
        simp only [readColon, skipSpace_cons (show isSpace ':' = false from rfl), ih m hm]
        rfl

end PageModel.Json
