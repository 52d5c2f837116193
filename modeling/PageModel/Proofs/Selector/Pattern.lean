import Mathlib.Tactic.ByContra
import PageModel.Extractor
import PageModel.Proofs.Regex.Capture

/-!
# What patterns select

Of the first match of its pattern a selector takes the group that the pattern selects, and of all
matches those groups that take part. So the first text that it selects is the first of all texts that
it selects, unless the group takes part in some match but not in the first one (`bind_head?_eq_iff`).
This cannot be for a pattern without groups, nor for one that cannot pass its first group by.
-/

namespace PageModel

open Regex

variable {expression : String} {s : Selector}

/-- Whether the group that a pattern selects takes part in a match. -/
def Regex.Pattern.TakesPart (p : Pattern) (text : String) (m : Slots) : Prop :=
  (groupText text.toList m p.selectedGroup).isSome = true

/-- A selector of a pattern looks for matches of the pattern. -/
theorem exists_pattern_of_ofPattern (h : Selector.ofPattern expression = .ok s) :
  ∃ p, Pattern.compile? .forSelecting expression = some p ∧ s = ⟨expression, .pattern p⟩
  := by
  unfold Selector.ofPattern at h
  split at h
  · cases h
  · split at h
    · next p hp => exact ⟨p, hp, (Except.ok.inj h).symm⟩
    · cases h

/-- Of a list with a first member, the first value is that of the first member if and only if that has
a value where some member has one. -/
theorem bind_head?_eq_iff {α β : Type} (f : α → Option β) (l : List α) :
  l.head?.bind f = (l.filterMap f).head? ↔
    ∀ first ∈ l.head?, (∃ a ∈ l, (f a).isSome = true) → (f first).isSome = true
  := by
  cases l with
  | nil => simp
  | cons a l =>
      rw [List.head?_cons, Option.bind_some]
      cases hfirst : f a with
      | some b => simp [hfirst]
      | none =>
          rw [List.filterMap_cons_none hfirst]
          constructor
          · rintro hhead first ⟨⟩ ⟨c, hc, hvalue⟩
            obtain ⟨b, hb⟩ := Option.isSome_iff_exists.1 hvalue
            have hmem : b ∈ l.filterMap f := by
              rcases List.mem_cons.1 hc with rfl | hc
              · rw [hfirst] at hb
                cases hb
              · exact List.mem_filterMap.2 ⟨c, hc, hb⟩
            rw [List.head?_eq_none_iff.1 hhead.symm] at hmem
            cases hmem
          · intro h
            symm
            rw [List.head?_eq_none_iff, List.filterMap_eq_nil_iff]
            intro c hc
            by_contra hvalue
            have hsome := h a rfl
              ⟨c, List.mem_cons_of_mem _ hc, Option.isSome_iff_ne_none.2 hvalue⟩
            rw [hfirst] at hsome
            cases hsome

theorem select_pattern_eq (expression : String) (p : Pattern) (text : String) :
  Selector.select ⟨expression, .pattern p⟩ text =
    (searchAll p.expr text.toList).head?.bind (groupText text.toList · p.selectedGroup)
  := by
  rw [head?_searchAll]
  rfl

/-- The group that a pattern selects takes part in the first match, if the pattern cannot pass it by. -/
theorem takesPart_of_head? {p : Pattern} {text : String} {first : Slots}
    (hgroup : p.selectedGroup = 0 ∨ p.expr.enters 1 = true)
    (hfirst : first ∈ (searchAll p.expr text.toList).head?) :
  p.TakesPart text first
  := by
  rw [head?_searchAll] at hfirst
  apply isSome_groupText_of_search hfirst
  rcases hgroup with hzero | henters
  · exact .inl hzero
  · unfold Pattern.selectedGroup
    split
    · exact .inr henters
    · exact .inl rfl

/-- What is selected first is the first of all that is selected, if and only if the group takes part in
the first match or in none. -/
theorem select_pattern_eq_head?_iff (expression : String) (p : Pattern) (text : String) :
  Selector.select ⟨expression, .pattern p⟩ text =
      (Selector.selectAll ⟨expression, .pattern p⟩ text).head? ↔
    ∀ first ∈ (searchAll p.expr text.toList).head?,
      (∃ m ∈ searchAll p.expr text.toList, p.TakesPart text m) → p.TakesPart text first
  := by
  rw [select_pattern_eq]
  exact bind_head?_eq_iff (groupText text.toList · p.selectedGroup) (searchAll p.expr text.toList)

/-- Where nothing is selected altogether, nothing is selected first. -/
theorem select_pattern_eq_none {expression : String} {p : Pattern} {text : String}
    (hnone : Selector.selectAll ⟨expression, .pattern p⟩ text = []) :
  Selector.select ⟨expression, .pattern p⟩ text = none
  := by
  rw [select_pattern_eq]
  change List.filterMap _ _ = [] at hnone
  cases hmatches : searchAll p.expr text.toList with
  | nil => rfl
  | cons m ms =>
      rw [hmatches] at hnone
      exact List.filterMap_eq_nil_iff.1 hnone m List.mem_cons_self

/-- A selector of a pattern selects in every text what its group captures: first, what it captures in
the first match, and altogether, what it captures in any. The first of all is what is selected first
if and only if the group takes part in the first match, or in none. Where nothing is selected
altogether, nothing is selected first. Both are always so for a pattern without groups, and for one
every match of which enters the first group, so that a page lacks one value of it if and only if it
lacks a list of values. -/
theorem Selector.select_eq_head?_selectAll_iff (h : Selector.ofPattern expression = .ok s) :
  ∃ p, Pattern.compile? .forSelecting expression = some p ∧
    (∀ text,
      (s.select text = (s.selectAll text).head? ↔
        ∀ first ∈ (searchAll p.expr text.toList).head?,
          (∃ m ∈ searchAll p.expr text.toList, p.TakesPart text m) → p.TakesPart text first) ∧
      (s.selectAll text = [] → s.select text = none)) ∧
    (p.selectedGroup = 0 ∨ p.expr.enters 1 = true → ∀ text,
      s.select text = (s.selectAll text).head? ∧
        (FieldValue.text (s.select text)).isMissing = (FieldValue.list (s.selectAll text)).isMissing)
  := by
  obtain ⟨p, hp, rfl⟩ := exists_pattern_of_ofPattern h
  refine ⟨p, hp, fun text => ⟨select_pattern_eq_head?_iff expression p text,
    select_pattern_eq_none⟩, fun hgroup text => ?_⟩
  have hfirst : Selector.select ⟨expression, .pattern p⟩ text =
      (Selector.selectAll ⟨expression, .pattern p⟩ text).head? := by
    rw [select_pattern_eq_head?_iff]
    exact fun first hfirst _ => takesPart_of_head? hgroup hfirst
  refine ⟨hfirst, ?_⟩
  rw [hfirst]
  cases Selector.selectAll ⟨expression, .pattern p⟩ text <;> rfl

/-- A number is captured by a pattern that cannot pass its group by, although the group stands among
alternatives and may be followed by others. -/
theorem ofPattern_digits_select :
  ∃ s, Selector.ofPattern "(?:q|a)/(\\d+)(_\\d+)?" = .ok s ∧ ∀ text,
    s.select text = (s.selectAll text).head? ∧
      (FieldValue.text (s.select text)).isMissing = (FieldValue.list (s.selectAll text)).isMissing
  := by
  have hpattern : (Selector.ofPattern "(?:q|a)/(\\d+)(_\\d+)?").isOk = true := by decide +kernel
  have henters : ((Pattern.compile? .forSelecting "(?:q|a)/(\\d+)(_\\d+)?").map
      (·.expr.enters 1)) = some true := by
    decide +kernel
  cases h : Selector.ofPattern "(?:q|a)/(\\d+)(_\\d+)?" with
  | error e =>
      rw [h] at hpattern
      cases hpattern
  | ok s =>
      obtain ⟨p, hp, -, hgroup⟩ := Selector.select_eq_head?_selectAll_iff h
      rw [hp] at henters
      exact ⟨s, rfl, hgroup (.inr (Option.some.inj henters))⟩

/-- The first match goes by the group, and the second one enters it: of a text in which a text is
selected, nothing is selected first. -/
theorem ofPattern_alternative_select :
  ∃ s, Selector.ofPattern "a|(b)" = .ok s ∧ s.select "ab" = none ∧ s.selectAll "ab" = ["b"] ∧
    s.select "ab" ≠ (s.selectAll "ab").head?
  := by
  have hselected : (Selector.ofPattern "a|(b)").toOption.map
      (fun s => (s.select "ab", s.selectAll "ab")) = some (none, ["b"]) := by
    decide +kernel
  cases h : Selector.ofPattern "a|(b)" with
  | error e =>
      rw [h] at hselected
      cases hselected
  | ok s =>
      rw [h] at hselected
      obtain ⟨hfirst, hall⟩ := Prod.mk.inj (Option.some.inj hselected)
      refine ⟨s, rfl, hfirst, hall, ?_⟩
      rw [hfirst, hall]
      exact Option.some_ne_none "b" |>.symm

end PageModel
