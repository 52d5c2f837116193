import Mathlib.Tactic.Use
import PageModel.Regex.Expr

/-!
# What expressions match

What an expression matches, read off from how it is built: one equation for each way of building.
Rounds of a repetition that match nothing do not bear on what it matches, as far as the number of
rounds is free (`exists_nonempty_round`).
-/

namespace PageModel.Regex

variable {before w after : List Char}

theorem matches_empty_iff :
  Matches .empty before w after ↔ w = []
  := by
  constructor
  · intro h
    cases h
    rfl
  · rintro rfl
    exact .empty before after

theorem matches_set_iff {s : CharSet} :
  Matches (.set s) before w after ↔ ∃ c, w = [c] ∧ s.contains c = true
  := by
  constructor
  · intro h
    cases h with
    | @set _ c _ _ hc => exact ⟨c, rfl, hc⟩
  · rintro ⟨c, rfl, hc⟩
    exact .set before after hc

theorem matches_single_iff {c : Char} :
  Matches (.set (.single c)) before w after ↔ w = [c]
  := by
  simp only [matches_set_iff, CharSet.contains_single, decide_eq_true_eq]
  constructor
  · rintro ⟨d, rfl, rfl⟩
    rfl
  · rintro rfl
    use c

theorem matches_anchor_iff {a : Anchor} :
  Matches (.anchor a) before w after ↔ w = [] ∧ a.holds before.head? after.head? = true
  := by
  constructor
  · intro h
    cases h with
    | anchor ha => exact ⟨rfl, ha⟩
  · rintro ⟨rfl, ha⟩
    exact .anchor ha

theorem matches_start_iff :
  Matches (.anchor .start) before w after ↔ w = [] ∧ before = []
  := by
  rw [matches_anchor_iff, Anchor.holds, Option.isNone_iff_eq_none, List.head?_eq_none_iff]

theorem matches_ending_iff :
  Matches (.anchor .ending) before w after ↔ w = [] ∧ after = []
  := by
  rw [matches_anchor_iff, Anchor.holds, Option.isNone_iff_eq_none, List.head?_eq_none_iff]

theorem matches_group_iff {i : Nat} {e : Expr} :
  Matches (.group i e) before w after ↔ Matches e before w after
  := by
  constructor
  · intro h
    cases h with
    | group he => exact he
  · intro he
    exact .group he

theorem matches_cat_iff {e f : Expr} :
  Matches (.cat e f) before w after ↔
    ∃ u v, w = u ++ v ∧ Matches e before u (v ++ after) ∧ Matches f (u.reverse ++ before) v after
  := by
  constructor
  · intro h
    cases h with
    | @cat _ _ _ u v _ he hf => exact ⟨u, v, rfl, he, hf⟩
  · rintro ⟨u, v, rfl, he, hf⟩
    exact .cat he hf

theorem matches_cats_nil_iff :
  Matches (.cats []) before w after ↔ w = []
  := matches_empty_iff

/-- Expressions one after the other match texts one after the other. -/
theorem matches_cats_cons_iff {e : Expr} {es : List Expr} :
  Matches (.cats (e :: es)) before w after ↔
    ∃ u v, w = u ++ v ∧ Matches e before u (v ++ after) ∧
      Matches (.cats es) (u.reverse ++ before) v after
  := by
  cases es with
  | nil =>
      constructor
      · intro he
        exact ⟨w, [], (List.append_nil w).symm, he, .empty _ after⟩
      · rintro ⟨u, v, rfl, he, hv⟩
        obtain rfl := matches_empty_iff.1 hv
        rw [List.append_nil]
        exact he
  | cons f es => exact matches_cat_iff

theorem matches_cats_append_iff {es fs : List Expr} :
  Matches (.cats (es ++ fs)) before w after ↔
    ∃ u v, w = u ++ v ∧ Matches (.cats es) before u (v ++ after) ∧
      Matches (.cats fs) (u.reverse ++ before) v after
  := by
  induction es generalizing before w with
  | nil =>
      simp only [List.nil_append, matches_cats_nil_iff]
      constructor
      · intro h
        exact ⟨[], w, rfl, rfl, h⟩
      · rintro ⟨_, v, rfl, rfl, h⟩
        exact h
  | cons e es ih =>
      simp only [List.cons_append, matches_cats_cons_iff, ih]
      constructor
      · rintro ⟨u, _, rfl, he, u', v, rfl, hes, hfs⟩
        refine ⟨u ++ u', v, (List.append_assoc u u' v).symm, ⟨u, u', rfl, ?_, hes⟩, ?_⟩
        · rwa [List.append_assoc] at he
        · rwa [List.reverse_append, List.append_assoc]
      · rintro ⟨_, v, rfl, ⟨u, u', rfl, he, hes⟩, hfs⟩
        refine ⟨u, u' ++ v, List.append_assoc u u' v, ?_, u', v, rfl, hes, ?_⟩
        · rwa [List.append_assoc]
        · rwa [List.reverse_append, List.append_assoc] at hfs

/-- Of a whole text, an expression between the anchors of both ends matches what the expression
matches. -/
theorem matches_anchored_iff {e : Expr} :
  Matches (.cats [.anchor .start, e, .anchor .ending]) [] w [] ↔ Matches e [] w []
  := by
  simp only [matches_cats_cons_iff, matches_cats_nil_iff, matches_start_iff, matches_ending_iff]
  constructor
  · rintro ⟨_, _, rfl, ⟨rfl, -⟩, u, _, rfl, he, _, _, rfl, ⟨rfl, -⟩, rfl⟩
    simpa using he
  · intro he
    have hw : w = w ++ [] := (List.append_nil w).symm
    exact ⟨[], w, rfl, ⟨rfl, trivial⟩, w, [], hw, he, [], [], rfl, ⟨rfl, rfl⟩, rfl⟩

theorem matches_alt_iff {e f : Expr} :
  Matches (.alt e f) before w after ↔ Matches e before w after ∨ Matches f before w after
  := by
  constructor
  · intro h
    cases h with
    | altLeft he => exact .inl he
    | altRight hf => exact .inr hf
  · rintro (he | hf)
    · exact .altLeft he
    · exact .altRight hf

/-- A repetition matches nothing, if no round is asked for, or a first round and what is left of the
repetition. -/
theorem matches_repeated_iff {min : Nat} {max : Option Nat} {greedy : Bool} {e : Expr} :
  Matches (.repeated min max greedy e) before w after ↔
    (min = 0 ∧ w = []) ∨ (max ≠ some 0 ∧ ∃ u v, w = u ++ v ∧ Matches e before u (v ++ after) ∧
      Matches (.repeated (min - 1) (max.map (· - 1)) greedy e) (u.reverse ++ before) v after)
  := by
  constructor
  · intro h
    cases h with
    | stop => exact .inl ⟨rfl, rfl⟩
    | @round _ _ _ _ _ u v _ hmax he hrest => exact .inr ⟨hmax, u, v, rfl, he, hrest⟩
  · rintro (⟨rfl, rfl⟩ | ⟨hmax, u, v, rfl, he, hrest⟩)
    · exact .stop before after
    · exact .round hmax he hrest

/-- A free repetition that matches something has a first round that does. -/
theorem exists_nonempty_round {greedy : Bool} {e : Expr}
    (h : Matches (.repeated 0 none greedy e) before w after) (hw : w ≠ []) :
  ∃ u v, u ≠ [] ∧ w = u ++ v ∧ Matches e before u (v ++ after) ∧
    Matches (.repeated 0 none greedy e) (u.reverse ++ before) v after
  := by
  generalize hx : Expr.repeated 0 none greedy e = x at h
  induction h with
  | stop => exact absurd rfl hw
  | @round min max greedy' e' before u v after hmax he hrest _ ih =>
      cases hx
      rcases u with _ | ⟨c, u⟩
      · exact ih hw rfl
      · exact ⟨c :: u, v, List.cons_ne_nil _ _, rfl, he, hrest⟩
  | _ => cases hx

/-- The characters of a set, as many as there are, are what its free repetition matches. -/
theorem matches_repeated_set_iff {greedy : Bool} {s : CharSet} :
  Matches (.repeated 0 none greedy (.set s)) before w after ↔ ∀ c ∈ w, s.contains c = true
  := by
  induction w generalizing before with
  | nil =>
      constructor
      · intro _ c hc
        cases hc
      · intro _
        exact .stop before after
  | cons c w ih =>
      constructor
      · intro h
        obtain ⟨u, v, -, huv, hu, hv⟩ := exists_nonempty_round h (List.cons_ne_nil _ _)
        obtain ⟨d, rfl, hd⟩ := matches_set_iff.1 hu
        obtain ⟨rfl, rfl⟩ := List.cons.inj huv
        exact List.forall_mem_cons.2 ⟨hd, ih.1 hv⟩
      · intro h
        obtain ⟨hc, hw⟩ := List.forall_mem_cons.1 h
        have hround : Matches (.set s) before [c] (w ++ after) := .set before (w ++ after) hc
        exact .round (Option.some_ne_none 0).symm hround (ih.2 hw)

end PageModel.Regex
