import PageModel.Proofs.Regex.Matches
import PageModel.Regex.Search

/-!
# What stacks match

A stack of frames matches what its frames match one after the other (`CanMatch`). Unfolding a stack
loses nothing (`exists_mem_stacks`) and adds nothing (`canMatch_of_mem_stacks`). A loop that has been
entered can only be left before a character is read; nothing is lost by that, since rounds that match
nothing can be left out. So what must not be lost is said of stacks in which such loops match nothing
until a character is read, and what must not be added of stacks in which they are loops like others.
Which loops have been entered bears on nothing else of what a stack unfolds to (`unfold_reset`).
-/

namespace PageModel.Regex

variable {before cs : List Char} {moved : Bool} {stack below : List Frame}

/-- The relation of a stack with the places from which it matches, given by the texts before, in
reverse, and after. A loop that has been entered matches nothing until a character has been read:
`moved` says whether one has been. -/
def CanMatch : (moved : Bool) → List Frame → (before cs : List Char) → Prop
  | _, [], _, _ => True
  | moved, .slot _ :: below, before, cs => CanMatch moved below before cs
  | moved, .expr e :: below, before, cs =>
      ∃ u rest, cs = u ++ rest ∧ Matches e before u rest ∧
        CanMatch (moved || !u.isEmpty) below (u.reverse ++ before) rest
  | moved, .loop greedy entered e :: below, before, cs =>
      ∃ u rest, cs = u ++ rest ∧ (entered = true → moved = false → u = []) ∧
        Matches (.repeated 0 none greedy e) before u rest ∧
          CanMatch (moved || !u.isEmpty) below (u.reverse ++ before) rest

/-! ### Reading a character -/

theorem moved_nil :
  (moved || !([] : List Char).isEmpty) = moved
  := Bool.or_false moved

theorem moved_of_ne_nil {u : List Char} (hu : u ≠ []) :
  (moved || !u.isEmpty) = true
  := by
  rw [List.isEmpty_eq_false_iff.2 hu, Bool.not_false, Bool.or_true]

theorem moved_append (u v : List Char) :
  (moved || !(u ++ v).isEmpty) = ((moved || !u.isEmpty) || !v.isEmpty)
  := by
  cases u with
  | nil => rw [List.nil_append, moved_nil]
  | cons c u => rw [List.cons_append, moved_of_ne_nil (List.cons_ne_nil _ _),
      moved_of_ne_nil (List.cons_ne_nil _ _), Bool.true_or]

/-- When a character has been read, entered loops are loops like others. -/
theorem canMatch_reset_iff :
  CanMatch moved (resetStack stack) before cs ↔ CanMatch true stack before cs
  := by
  induction stack generalizing moved before cs with
  | nil => exact Iff.rfl
  | cons f below ih =>
      cases f with
      | slot i => exact ih
      | expr e => simp only [resetStack_cons, Frame.reset, CanMatch, ih, Bool.true_or]
      | loop greedy entered e =>
          simp only [resetStack_cons, Frame.reset, CanMatch, ih, Bool.true_or, implies_true, true_and,
            Bool.false_eq_true, Bool.true_eq_false, false_implies]

theorem CanMatch.of_moved (h : CanMatch moved stack before cs) :
  CanMatch true stack before cs
  := by
  induction stack generalizing moved before cs with
  | nil => trivial
  | cons f below ih =>
      cases f with
      | slot i =>
          have hbelow : CanMatch moved below before cs := h
          exact ih hbelow
      | expr e =>
          obtain ⟨u, rest, hcs, hu, hrest⟩ := h
          exact ⟨u, rest, hcs, hu, ih hrest⟩
      | loop greedy entered e =>
          obtain ⟨u, rest, hcs, -, hu, hrest⟩ := h
          exact ⟨u, rest, hcs, fun _ hmoved => Bool.noConfusion hmoved, hu, ih hrest⟩

/-- A stack with a set on top matches from a place if the next character is in the set, and what is
below matches after it. -/
theorem canMatch_set_iff {s : CharSet} {c : Char} :
  CanMatch moved (.expr (.set s) :: below) before (c :: cs) ↔
    s.contains c = true ∧ CanMatch true below (c :: before) cs
  := by
  constructor
  · rintro ⟨u, rest, hcs, hu, hrest⟩
    obtain ⟨d, rfl, hd⟩ := matches_set_iff.1 hu
    obtain ⟨rfl, rfl⟩ := List.cons.inj hcs
    rw [moved_of_ne_nil (List.cons_ne_nil _ _)] at hrest
    exact ⟨hd, hrest⟩
  · rintro ⟨hc, hrest⟩
    refine ⟨[c], cs, rfl, .set _ _ hc, ?_⟩
    rw [moved_of_ne_nil (List.cons_ne_nil _ _)]
    exact hrest

theorem not_canMatch_set_nil {s : CharSet} :
  ¬ CanMatch moved (.expr (.set s) :: below) before []
  := by
  rintro ⟨u, rest, hcs, hu, -⟩
  obtain ⟨d, rfl, -⟩ := matches_set_iff.1 hu
  cases hcs

/-! ### One frame for another -/

/-- What matches nothing can be taken off. -/
theorem canMatch_of_below {e : Expr} (he : Matches e before [] cs)
    (h : CanMatch moved below before cs) :
  CanMatch moved (.expr e :: below) before cs
  := by
  refine ⟨[], cs, rfl, he, ?_⟩
  rw [moved_nil]
  exact h

theorem canMatch_cat_iff {e f : Expr} :
  CanMatch moved (.expr (.cat e f) :: below) before cs ↔
    CanMatch moved (.expr e :: .expr f :: below) before cs
  := by
  constructor
  · rintro ⟨w, rest, rfl, hw, hrest⟩
    obtain ⟨u, v, rfl, hu, hv⟩ := matches_cat_iff.1 hw
    rw [moved_append, List.reverse_append, List.append_assoc] at hrest
    exact ⟨u, v ++ rest, List.append_assoc u v rest, hu, v, rest, rfl, hv, hrest⟩
  · rintro ⟨u, _, rfl, hu, v, rest, rfl, hv, hrest⟩
    refine ⟨u ++ v, rest, (List.append_assoc u v rest).symm, .cat hu hv, ?_⟩
    rw [moved_append, List.reverse_append, List.append_assoc]
    exact hrest

/-- An expression that matches more can stand for another. -/
theorem CanMatch.imp_expr {e f : Expr} (h : CanMatch moved (.expr e :: below) before cs)
    (himp : ∀ u rest, Matches e before u rest → Matches f before u rest) :
  CanMatch moved (.expr f :: below) before cs
  := by
  obtain ⟨u, rest, hcs, he, hrest⟩ := h
  exact ⟨u, rest, hcs, himp u rest he, hrest⟩

theorem canMatch_group_iff {i : Nat} {e : Expr} :
  CanMatch moved (.expr (.group i e) :: below) before cs ↔
    CanMatch moved (.expr e :: below) before cs
  := by
  simp only [CanMatch, matches_group_iff]

theorem canMatch_alt_iff {e f : Expr} :
  CanMatch moved (.expr (.alt e f) :: below) before cs ↔
    CanMatch moved (.expr e :: below) before cs ∨ CanMatch moved (.expr f :: below) before cs
  := by
  simp only [CanMatch, matches_alt_iff, or_and_right, and_or_left, exists_or]

theorem canMatch_loop_iff {greedy : Bool} {e : Expr} :
  CanMatch moved (.loop greedy false e :: below) before cs ↔
    CanMatch moved (.expr (.repeated 0 none greedy e) :: below) before cs
  := by
  simp only [CanMatch, Bool.false_eq_true, false_implies, true_and]

/-- When a character has been read, a loop below an expression is a free repetition too. -/
theorem canMatch_expr_loop_iff {greedy entered : Bool} {e f : Expr} :
  CanMatch true (.expr e :: .loop greedy entered f :: below) before cs ↔
    CanMatch true (.expr e :: .expr (.repeated 0 none greedy f) :: below) before cs
  := by
  simp only [CanMatch, Bool.true_or, Bool.true_eq_false, false_implies, implies_true, true_and]

/-- A loop can be left, entered or not. -/
theorem canMatch_loop_of_below {greedy entered : Bool} {e : Expr}
    (h : CanMatch moved below before cs) :
  CanMatch moved (.loop greedy entered e :: below) before cs
  := by
  refine ⟨[], cs, rfl, fun _ _ => rfl, .stop before cs, ?_⟩
  rw [moved_nil]
  exact h

/-- Until a character is read, an entered loop can only be left. -/
theorem canMatch_entered_iff {greedy : Bool} {e : Expr} :
  CanMatch false (.loop greedy true e :: below) before cs ↔ CanMatch false below before cs
  := by
  constructor
  · rintro ⟨u, rest, rfl, hempty, -, hrest⟩
    obtain rfl := hempty rfl rfl
    exact hrest
  · exact canMatch_loop_of_below

/-- A repetition begins with a round, where it may have one. -/
theorem canMatch_of_round {min : Nat} {max : Option Nat} {greedy : Bool} {e : Expr}
    (hmax : max ≠ some 0)
    (h : CanMatch moved
      (.expr e :: .expr (.repeated (min - 1) (max.map (· - 1)) greedy e) :: below) before cs) :
  CanMatch moved (.expr (.repeated min max greedy e) :: below) before cs
  := by
  apply (canMatch_cat_iff.2 h).imp_expr
  intro w rest hw
  obtain ⟨u, v, hu⟩ := matches_cat_iff.1 hw
  exact matches_repeated_iff.2 (.inr ⟨hmax, u, v, hu⟩)

/-- A stack with a repetition on top matches without it, if it may have no round, or has a first round
and goes on. -/
theorem CanMatch.cases_repeated {min : Nat} {max : Option Nat} {greedy : Bool} {e : Expr}
    (h : CanMatch moved (.expr (.repeated min max greedy e) :: below) before cs) :
  (min = 0 ∧ CanMatch moved below before cs) ∨
    (max ≠ some 0 ∧ CanMatch moved
      (.expr e :: .expr (.repeated (min - 1) (max.map (· - 1)) greedy e) :: below) before cs)
  := by
  obtain ⟨w, rest, rfl, hw, hrest⟩ := h
  rcases matches_repeated_iff.1 hw with ⟨hmin, rfl⟩ | ⟨hmax, u, v, hu⟩
  · rw [moved_nil] at hrest
    exact .inl ⟨hmin, hrest⟩
  · right
    refine ⟨hmax, canMatch_cat_iff.1 ?_⟩
    exact ⟨w, rest, rfl, matches_cat_iff.2 ⟨u, v, hu⟩, hrest⟩

/-- A stack with a free repetition on top matches without it, or has a first round that reads a
character and then goes on with the loop, entered or not. -/
theorem CanMatch.cases_loop {greedy entered : Bool} {e : Expr}
    (h : CanMatch moved (.expr (.repeated 0 none greedy e) :: below) before cs) :
  CanMatch moved below before cs ∨
    CanMatch moved (.expr e :: .loop greedy entered e :: below) before cs
  := by
  obtain ⟨w, rest, rfl, hw, hrest⟩ := h
  by_cases hempty : w = []
  · subst hempty
    rw [moved_nil] at hrest
    exact .inl hrest
  · right
    obtain ⟨u, v, hu, rfl, he, hv⟩ := exists_nonempty_round hw hempty
    rw [moved_append, List.reverse_append, List.append_assoc] at hrest
    refine ⟨u, v ++ rest, List.append_assoc u v rest, he, v, rest, rfl, fun _ hstill => ?_, hv, hrest⟩
    exact absurd ((moved_of_ne_nil hu).symm.trans hstill) Bool.noConfusion

/-- A round with a free repetition after it is a round with the loop after it, entered or not: where the
round matches nothing, the first one that matches something can be taken in its place. -/
theorem CanMatch.loop_of_round {greedy entered : Bool} {e : Expr}
    (h : CanMatch moved (.expr e :: .expr (.repeated 0 none greedy e) :: below) before cs) :
  CanMatch moved (.expr e :: .loop greedy entered e :: below) before cs
  := by
  obtain ⟨u, rest, rfl, he, hrest⟩ := h
  by_cases hempty : u = []
  · subst hempty
    rw [moved_nil] at hrest
    rcases hrest.cases_loop with hbelow | hround
    · exact canMatch_of_below he (canMatch_loop_of_below hbelow)
    · exact hround
  · obtain ⟨v, after, rfl, hv, hafter⟩ := hrest
    refine ⟨u, v ++ after, rfl, he, v, after, rfl, fun _ hstill => ?_, hv, hafter⟩
    exact absurd ((moved_of_ne_nil hempty).symm.trans hstill) Bool.noConfusion

/-! ### Unfolding -/

/-- The stacks of an unfolding. -/
def Unfolding.stacks : Unfolding → List (List Frame)
  | .ready => []
  | .dead => []
  | .one s => [s]
  | .record _ s => [s]
  | .two s t => [s, t]

theorem mem_stacks_two {s t : List Frame} :
  stack ∈ (Unfolding.two s t).stacks ↔ stack = s ∨ stack = t
  := by
  rw [Unfolding.stacks, List.mem_cons, List.mem_singleton]

theorem mem_stacks_choice {greedy : Bool} {again leave : List Frame} :
  stack ∈ (Unfolding.choice greedy again leave).stacks ↔ stack = again ∨ stack = leave
  := by
  cases greedy with
  | false => exact mem_stacks_two.trans or_comm
  | true => exact mem_stacks_two

theorem choice_ne_ready (greedy : Bool) (again leave : List Frame) :
  Unfolding.choice greedy again leave ≠ .ready
  := by
  cases greedy <;> exact Unfolding.noConfusion

theorem unfoldRepeated_ne_ready (min : Nat) (max : Option Nat) (greedy : Bool) (e : Expr)
    (below : List Frame) :
  unfoldRepeated min max greedy e below ≠ .ready
  := by
  unfold unfoldRepeated
  split
  · exact Unfolding.noConfusion
  · exact Unfolding.noConfusion
  · apply choice_ne_ready
  · exact Unfolding.noConfusion
  · split
    · apply choice_ne_ready
    · exact Unfolding.noConfusion
  · exact Unfolding.noConfusion
  · exact Unfolding.noConfusion

/-- A stack that is not unfolded any more is empty or waits for a character. -/
theorem eq_of_unfold_eq_ready {p : Place} (h : unfold p stack = .ready) :
  stack = [] ∨ ∃ s below, stack = .expr (.set s) :: below
  := by
  unfold unfold at h
  split at h
  · exact .inl rfl
  · cases h
  · cases h
  · exact absurd h (choice_ne_ready _ _ _)
  · split at h
    · cases h
    · exact .inr ⟨_, _, rfl⟩
    · split at h <;> cases h
    · cases h
    · cases h
    · cases h
    · exact absurd h (unfoldRepeated_ne_ready _ _ _ _ _)

theorem canMatch_of_mem_stacks_repeated {min : Nat} {max : Option Nat} {greedy : Bool} {e : Expr}
    (hs : stack ∈ (unfoldRepeated min max greedy e below).stacks)
    (h : CanMatch true stack before cs) :
  CanMatch true (.expr (.repeated min max greedy e) :: below) before cs
  := by
  match min, max with
  | 0, some 0 =>
      obtain rfl := List.mem_singleton.1 hs
      exact canMatch_of_below (.stop before cs) h
  | min + 1, some 0 => cases hs
  | 0, some (max + 1) =>
      rcases mem_stacks_choice.1 hs with rfl | rfl
      · exact canMatch_of_round (by simp) h
      · exact canMatch_of_below (.stop before cs) h
  | min + 1, some (max + 1) =>
      obtain rfl := List.mem_singleton.1 hs
      exact canMatch_of_round (by simp) h
  | 0, none =>
      simp only [unfoldRepeated] at hs
      split at hs
      · rcases mem_stacks_choice.1 hs with rfl | rfl
        · exact canMatch_of_round (by simp) (canMatch_expr_loop_iff.1 h)
        · exact canMatch_of_below (.stop before cs) h
      · obtain rfl := List.mem_singleton.1 hs
        exact canMatch_loop_iff.1 h
  | 1, none =>
      obtain rfl := List.mem_singleton.1 hs
      exact canMatch_of_round (by simp) (canMatch_expr_loop_iff.1 h)
  | min + 2, none =>
      obtain rfl := List.mem_singleton.1 hs
      exact canMatch_of_round (by simp) h

/-- Unfolding adds nothing to what a stack matches. -/
theorem canMatch_of_mem_stacks {p : Place} (hbefore : p.before = before.head?)
    (hafter : p.after = cs.head?) {s : List Frame} (hs : s ∈ (unfold p stack).stacks)
    (h : CanMatch true s before cs) :
  CanMatch true stack before cs
  := by
  match stack with
  | [] => cases hs
  | .slot i :: below =>
      obtain rfl := List.mem_singleton.1 hs
      exact h
  | .loop greedy true e :: below =>
      obtain rfl := List.mem_singleton.1 hs
      exact canMatch_loop_of_below h
  | .loop greedy false e :: below =>
      rcases mem_stacks_choice.1 hs with rfl | rfl
      · exact canMatch_loop_iff.2 (canMatch_of_round (by simp) (canMatch_expr_loop_iff.1 h))
      · exact canMatch_loop_of_below h
  | .expr e :: below =>
      cases e with
      | empty =>
          obtain rfl := List.mem_singleton.1 hs
          exact canMatch_of_below (.empty before cs) h
      | set s => cases hs
      | anchor a =>
          simp only [unfold] at hs
          split at hs
          · next hholds =>
              obtain rfl := List.mem_singleton.1 hs
              rw [hbefore, hafter] at hholds
              exact canMatch_of_below (.anchor hholds) h
          · cases hs
      | group i e =>
          obtain rfl := List.mem_singleton.1 hs
          exact canMatch_group_iff.2 h
      | cat e f =>
          obtain rfl := List.mem_singleton.1 hs
          exact canMatch_cat_iff.2 h
      | alt e f =>
          apply canMatch_alt_iff.2
          rcases mem_stacks_two.1 hs with rfl | rfl
          · exact .inl h
          · exact .inr h
      | repeated min max greedy e => exact canMatch_of_mem_stacks_repeated hs h

theorem exists_mem_stacks_repeated {min : Nat} {max : Option Nat} {greedy : Bool} {e : Expr}
    (h : CanMatch false (.expr (.repeated min max greedy e) :: below) before cs) :
  ∃ s ∈ (unfoldRepeated min max greedy e below).stacks, CanMatch false s before cs
  := by
  match min, max with
  | 0, some 0 =>
      rcases h.cases_repeated with ⟨-, hbelow⟩ | ⟨hmax, -⟩
      · exact ⟨_, List.mem_singleton_self _, hbelow⟩
      · exact absurd rfl hmax
  | min + 1, some 0 =>
      rcases h.cases_repeated with ⟨hmin, -⟩ | ⟨hmax, -⟩
      · cases hmin
      · exact absurd rfl hmax
  | 0, some (max + 1) =>
      rcases h.cases_repeated with ⟨-, hbelow⟩ | ⟨-, hround⟩
      · exact ⟨_, mem_stacks_choice.2 (.inr rfl), hbelow⟩
      · exact ⟨_, mem_stacks_choice.2 (.inl rfl), hround⟩
  | min + 1, some (max + 1) =>
      rcases h.cases_repeated with ⟨hmin, -⟩ | ⟨-, hround⟩
      · cases hmin
      · exact ⟨_, List.mem_singleton_self _, hround⟩
  | 0, none =>
      simp only [unfoldRepeated]
      split
      · rcases h.cases_loop with hbelow | hround
        · exact ⟨_, mem_stacks_choice.2 (.inr rfl), hbelow⟩
        · exact ⟨_, mem_stacks_choice.2 (.inl rfl), hround⟩
      · exact ⟨_, List.mem_singleton_self _, canMatch_loop_iff.2 h⟩
  | 1, none =>
      rcases h.cases_repeated with ⟨hmin, -⟩ | ⟨-, hround⟩
      · cases hmin
      · exact ⟨_, List.mem_singleton_self _, hround.loop_of_round⟩
  | min + 2, none =>
      rcases h.cases_repeated with ⟨hmin, -⟩ | ⟨-, hround⟩
      · cases hmin
      · exact ⟨_, List.mem_singleton_self _, hround⟩

/-- Unfolding loses nothing of what a stack matches. -/
theorem exists_mem_stacks {p : Place} (hbefore : p.before = before.head?)
    (hafter : p.after = cs.head?) (h : CanMatch false stack before cs) :
  unfold p stack = .ready ∨ ∃ s ∈ (unfold p stack).stacks, CanMatch false s before cs
  := by
  match stack with
  | [] => exact .inl rfl
  | .slot i :: below => exact .inr ⟨below, List.mem_singleton_self _, h⟩
  | .loop greedy true e :: below =>
      exact .inr ⟨below, List.mem_singleton_self _, canMatch_entered_iff.1 h⟩
  | .loop greedy false e :: below =>
      right
      rcases (canMatch_loop_iff.1 h).cases_loop with hbelow | hround
      · exact ⟨_, mem_stacks_choice.2 (.inr rfl), hbelow⟩
      · exact ⟨_, mem_stacks_choice.2 (.inl rfl), hround⟩
  | .expr e :: below =>
      cases e with
      | empty =>
          obtain ⟨u, rest, rfl, hu, hrest⟩ := h
          obtain rfl := matches_empty_iff.1 hu
          exact .inr ⟨below, List.mem_singleton_self _, hrest⟩
      | set s => exact .inl rfl
      | anchor a =>
          obtain ⟨u, rest, rfl, hu, hrest⟩ := h
          obtain ⟨rfl, hholds⟩ := matches_anchor_iff.1 hu
          rw [← hbefore] at hholds
          have hholds' : a.holds p.before p.after = true := by
            rw [hafter]
            exact hholds
          right
          simp only [unfold, if_pos hholds']
          exact ⟨below, List.mem_singleton_self _, hrest⟩
      | group i e => exact .inr ⟨_, List.mem_singleton_self _, canMatch_group_iff.1 h⟩
      | cat e f => exact .inr ⟨_, List.mem_singleton_self _, canMatch_cat_iff.1 h⟩
      | alt e f =>
          right
          rcases canMatch_alt_iff.1 h with he | hf
          · exact ⟨_, mem_stacks_two.2 (.inl rfl), he⟩
          · exact ⟨_, mem_stacks_two.2 (.inr rfl), hf⟩
      | repeated min max greedy e => exact .inr (exists_mem_stacks_repeated h)

/-! ### Loops that have been entered -/

theorem resetStack_resetStack (stack : List Frame) :
  resetStack (resetStack stack) = resetStack stack
  := by
  rw [resetStack, resetStack, List.map_map]
  apply List.map_congr_left
  rintro (_ | _ | _) - <;> rfl

/-- An unfolding after a character has been read. -/
def Unfolding.reset : Unfolding → Unfolding
  | .ready => .ready
  | .dead => .dead
  | .one s => .one (resetStack s)
  | .record i s => .record i (resetStack s)
  | .two s t => .two (resetStack s) (resetStack t)

theorem stacks_reset (u : Unfolding) :
  u.reset.stacks = u.stacks.map resetStack
  := by
  cases u <;> rfl

theorem reset_eq_ready_iff {u : Unfolding} :
  u.reset = .ready ↔ u = .ready
  := by
  cases u <;> simp [Unfolding.reset]

theorem reset_choice (greedy : Bool) (again leave : List Frame) :
  (Unfolding.choice greedy again leave).reset =
    .choice greedy (resetStack again) (resetStack leave)
  := by
  cases greedy <;> rfl

theorem unfoldRepeated_reset (min : Nat) (max : Option Nat) (greedy : Bool) (e : Expr)
    (below : List Frame) :
  (unfoldRepeated min max greedy e (resetStack below)).reset =
    (unfoldRepeated min max greedy e below).reset
  := by
  unfold unfoldRepeated
  split
  · simp only [Unfolding.reset, resetStack_resetStack]
  · rfl
  · simp only [reset_choice, resetStack_cons, resetStack_resetStack]
  · simp only [Unfolding.reset, resetStack_cons, resetStack_resetStack]
  · split
    · simp only [reset_choice, resetStack_cons, resetStack_resetStack]
    · simp only [Unfolding.reset, resetStack_cons, resetStack_resetStack]
  · simp only [Unfolding.reset, resetStack_cons, resetStack_resetStack]
  · simp only [Unfolding.reset, resetStack_cons, resetStack_resetStack]

/-- Which loops have been entered does not bear on how a stack is unfolded, unless such a loop is on
top. -/
theorem unfold_reset (p : Place) (hstack : ∀ greedy e below, stack ≠ .loop greedy true e :: below) :
  (unfold p (resetStack stack)).reset = (unfold p stack).reset
  := by
  match stack with
  | [] => rfl
  | .slot i :: below =>
      simp only [resetStack_cons, Frame.reset, unfold, Unfolding.reset, resetStack_resetStack]
  | .loop greedy true e :: below => exact absurd rfl (hstack greedy e below)
  | .loop greedy false e :: below =>
      simp only [resetStack_cons, Frame.reset, unfold, reset_choice, resetStack_resetStack]
  | .expr e :: below =>
      cases e with
      | repeated min max greedy e => exact unfoldRepeated_reset min max greedy e below
      | set s => rfl
      | anchor a =>
          simp only [resetStack_cons, Frame.reset, unfold]
          split
          · simp only [Unfolding.reset, resetStack_resetStack]
          · rfl
      | _ => simp only [resetStack_cons, Frame.reset, unfold, Unfolding.reset, resetStack_resetStack]

end PageModel.Regex
