import Mathlib.Data.List.Induction
import PageModel.Proofs.Json.Plain
import PageModel.Proofs.Model.Extraction

/-!
# What a record keeps of its history

A record that starts empty and is written to field by field holds in each field what the last write to
that field gave it, of whatever kind the writes before were (`Record.get?_afterWrites`). All it holds
are texts, lists of texts and null, so that its text is read back as the record
(`Record.ofText?_toText`).
-/

namespace PageModel

open Json

/-! ### Writes -/

/-- A write to a field: of one text or null, or of a list of texts. -/
structure Write where
  field : String
  value : FieldValue
deriving Repr, DecidableEq

/-- A record after a write. -/
def Record.write (r : Record) (w : Write) : Record :=
  match w.value with
  | .text v => r.setText w.field v
  | .list vs => r.setList w.field vs

/-- The record that writes lead to, one after the other, from the one without fields. -/
def Record.afterWrites (ws : List Write) : Record :=
  ws.foldl Record.write .empty

/-- The last of the writes to a field, if there is one. -/
def lastWrite? (ws : List Write) (field : String) : Option Write :=
  (ws.filter fun w => w.field = field).getLast?

theorem lastWrite?_concat (ws : List Write) (w : Write) (field : String) :
  lastWrite? (ws ++ [w]) field = if w.field = field then some w else lastWrite? ws field
  := by
  unfold lastWrite?
  rw [List.filter_append]
  by_cases h : w.field = field
  · simp [h]
  · simp [h]

theorem lastWrite?_isSome_iff (ws : List Write) (field : String) :
  (lastWrite? ws field).isSome = true ↔ ∃ w ∈ ws, w.field = field
  := by
  simp [lastWrite?]

namespace Record

theorem write_eq_set (r : Record) (w : Write) :
  r.write w = r.set w.field w.value.toJson
  := by
  obtain ⟨field, v | vs⟩ := w
  · apply setText_eq_set
  · rfl

theorem afterWrites_concat (ws : List Write) (w : Write) :
  afterWrites (ws ++ [w]) = (afterWrites ws).write w
  := by
  rw [afterWrites, List.foldl_append, List.foldl_cons, List.foldl_nil, afterWrites]

/-- A field holds what the last write to it gave it. -/
theorem get?_afterWrites (ws : List Write) (field : String) :
  (afterWrites ws).get? field = (lastWrite? ws field).map (·.value.toJson)
  := by
  induction ws using List.reverseRecOn with
  | nil => rfl
  | append_singleton ws w ih =>
      rw [afterWrites_concat, write_eq_set, get?_set, lastWrite?_concat, ih]
      by_cases h : w.field = field
      · rw [if_pos h.symm, if_pos h, Option.map_some]
      · rw [if_neg (Ne.symm h), if_neg h]

theorem filterMap_textOf? (vs : List String) :
  (vs.map Json.Value.string).filterMap textOf? = vs
  := by
  rw [List.filterMap_map]
  apply List.filterMap_some

/-! ### Records that are read back -/

theorem values_foldl_set (r : Record) {members : List (String × Json.Value)}
    (h : Ordered (r.values ++ members)) :
  (members.foldl (fun r m => r.set m.1 m.2) r).values = r.values ++ members
  := by
  induction members generalizing r with
  | nil => exact (List.append_nil _).symm
  | cons m members ih =>
      have hlast : (r.set m.1 m.2).values = r.values ++ [m] := by
        apply putMember_eq_append
        intro n hn
        exact (List.pairwise_append.1 h).2.2 n hn m List.mem_cons_self
      rw [List.append_cons] at h ⊢
      rw [← hlast] at h ⊢
      exact ih _ h

theorem ofMembers_values (r : Record) :
  ofMembers r.values = r
  := by
  have hvalues := values_foldl_set empty (show Ordered (empty.values ++ r.values) from r.ordered)
  obtain ⟨values, ordered⟩ := r
  rw [ofMembers, Record.mk.injEq]
  exact hvalues

/-- A record without numbers is read back from its text. -/
theorem ofText?_toText {r : Record} (h : Plain maxDepth r.toValue) :
  ofText? r.toText = some r
  := by
  have hread := h.readValue_chars []
  rw [List.append_nil] at hread
  have htext : readText (readValue maxDepth) r.toText = .ok r.toValue := by
    rw [readText, toText, Json.Value.text, String.toList_ofList, hread]
    rfl
  rw [ofText?, htext, toValue]
  simp only [ofMembers_values]

/-- The value of a member is found under its name. -/
theorem get?_of_mem {r : Record} {m : String × Json.Value} (h : m ∈ r.values) :
  r.get? m.1 = some m.2
  := by
  obtain ⟨before, after, hsplit⟩ := List.append_of_mem h
  have hordered := r.ordered
  rw [hsplit, Ordered, List.pairwise_append] at hordered
  apply List.lookup_eq_some_iff.2
  use before, after, hsplit
  intro n hn
  apply bne_iff_ne.2
  have hlt := hordered.2.2 n hn m List.mem_cons_self
  intro heq
  exact String.lt_irrefl _ (heq ▸ hlt)

/-- A record is a value without numbers if its fields hold such values. -/
theorem plain_toValue {r : Record} {depth : Nat}
    (h : ∀ field v, r.get? field = some v → Plain depth v) :
  Plain (depth + 1) r.toValue
  := by
  apply Plain.object r.ordered
  intro m hm
  apply h m.1
  apply get?_of_mem hm

end Record

/-- What a rule writes is a text, a list of texts or null. -/
theorem plain_toJson (value : FieldValue) (depth : Nat) :
  Plain (depth + 1) value.toJson
  := by
  cases value with
  | text v =>
      cases v with
      | none => exact .null _
      | some s => exact .string _ s
  | list vs =>
      apply Plain.array
      intro v hv
      obtain ⟨s, -, rfl⟩ := List.mem_map.1 hv
      exact .string _ s

/-- After any writes to the record without fields, a field holds what the last write to it gave it,
whatever kind the writes before were of, and a field that was never written to holds nothing. The
fields are those that were written to, each once, in the order of their names. The text of the record is
read back as the record, whatever its names and texts are. -/
theorem Record.holds_last_writes (ws : List Write) :
  (∀ field,
    match (lastWrite? ws field).map Write.value with
    | none => (afterWrites ws).get? field = none ∧ (afterWrites ws).text? field = none ∧
        (afterWrites ws).list field = []
    | some (.text (some s)) => (afterWrites ws).get? field = some (.string s) ∧
        (afterWrites ws).text? field = some s ∧ (afterWrites ws).list field = []
    | some (.text none) => (afterWrites ws).get? field = some .null ∧
        (afterWrites ws).text? field = none ∧ (afterWrites ws).list field = []
    | some (.list vs) => (afterWrites ws).get? field = some (.array (vs.map .string)) ∧
        (afterWrites ws).text? field = none ∧ (afterWrites ws).list field = vs) ∧
  (∀ field, field ∈ (afterWrites ws).fields ↔ ∃ w ∈ ws, w.field = field) ∧
  (afterWrites ws).fields.Pairwise (· < ·) ∧
  ofText? (afterWrites ws).toText = some (afterWrites ws)
  := by
  refine ⟨?_, ?_, ?_, ?_⟩
  · intro field
    unfold text? list
    rw [get?_afterWrites]
    rcases lastWrite? ws field with _ | ⟨name, ⟨s | _⟩ | vs⟩
    · exact ⟨rfl, rfl, rfl⟩
    · exact ⟨rfl, rfl, rfl⟩
    · exact ⟨rfl, rfl, rfl⟩
    · exact ⟨rfl, rfl, filterMap_textOf? vs⟩
  · intro field
    rw [mem_fields_iff, get?_afterWrites, Option.isSome_map, lastWrite?_isSome_iff]
  · apply List.pairwise_map.2
    apply (afterWrites ws).ordered
  · apply ofText?_toText
    change Plain (126 + 1) _
    apply plain_toValue
    intro field v hv
    rw [get?_afterWrites] at hv
    obtain ⟨w, -, rfl⟩ := Option.map_eq_some_iff.1 hv
    apply plain_toJson

end PageModel
