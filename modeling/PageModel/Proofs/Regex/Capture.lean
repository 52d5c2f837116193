import PageModel.Proofs.Regex.Search

/-!
# Groups that take part in every match

The whole match is captured in every match, and so is a group that an expression cannot pass by
(`Expr.enters`). While a search goes on, each thread has recorded both ends of such a group or has a
frame on its stack that will (`Records`); unfolding a stack and reading a character keep this, and a
thread that has come to its end has no frames left (`isSome_groupText_of_search`). The first of all
matches is the one that a search finds (`head?_searchAll`).
-/

namespace PageModel.Regex

variable {j group : Nat} {p : Place} {stack below : List Frame} {slots : Slots} {f : Frontier}

/-! ### Groups that are entered -/

/-- Whether a group is entered on every way through an expression. -/
def Expr.enters (group : Nat) : Expr → Bool
  | .empty => false
  | .set _ => false
  | .anchor _ => false
  | .group i e => i == group || e.enters group
  | .cat a b => a.enters group || b.enters group
  | .alt a b => a.enters group && b.enters group
  | .repeated min _ _ e => min != 0 && e.enters group

theorem Expr.groupCount_pos (e : Expr) :
  0 < e.groupCount
  := by
  induction e with
  | group i e _ => exact Nat.lt_of_lt_of_le (Nat.succ_pos i) (Nat.le_max_left _ _)
  | cat a b iha _ => exact Nat.lt_of_lt_of_le iha (Nat.le_max_left _ _)
  | alt a b iha _ => exact Nat.lt_of_lt_of_le iha (Nat.le_max_left _ _)
  | repeated min max greedy e ih => exact ih
  | _ => exact Nat.one_pos

theorem Expr.lt_groupCount_of_enters {e : Expr} (h : e.enters group = true) :
  group < e.groupCount
  := by
  induction e with
  | group i e ih =>
      rcases Bool.or_eq_true_iff.1 h with hi | he
      · rw [← eq_of_beq hi]
        exact Nat.lt_of_lt_of_le (Nat.lt_succ_self i) (Nat.le_max_left _ _)
      · exact Nat.lt_of_lt_of_le (ih he) (Nat.le_max_right _ _)
  | cat a b iha ihb =>
      rcases Bool.or_eq_true_iff.1 h with ha | hb
      · exact Nat.lt_of_lt_of_le (iha ha) (Nat.le_max_left _ _)
      · exact Nat.lt_of_lt_of_le (ihb hb) (Nat.le_max_right _ _)
  | alt a b iha _ =>
      exact Nat.lt_of_lt_of_le (iha (Bool.and_eq_true_iff.1 h).1) (Nat.le_max_left _ _)
  | repeated min max greedy e ih => exact ih (Bool.and_eq_true_iff.1 h).2
  | _ => cases h

/-! ### Ends that are recorded -/

/-- Whether matching a frame records an end of a group. The ends of a group have two numbers that
follow each other, the first of which is even. -/
def Frame.records (j : Nat) : Frame → Bool
  | .expr e => e.enters (j / 2)
  | .slot i => i == j
  | .loop _ _ _ => false

/-- Whether an end of a group has been recorded, or will be when a stack is matched. -/
def Records (j : Nat) (stack : List Frame) (slots : Slots) : Prop :=
  j < slots.size ∧ (slots[j]?.join.isSome = true ∨ stack.any (Frame.records j) = true)

theorem any_records_choice {greedy : Bool} {again leave s : List Frame}
    (hs : s ∈ (Unfolding.choice greedy again leave).stacks)
    (hagain : again.any (Frame.records j) = true) (hleave : leave.any (Frame.records j) = true) :
  s.any (Frame.records j) = true
  := by
  rcases mem_stacks_choice.1 hs with rfl | rfl
  · exact hagain
  · exact hleave

theorem any_records_repeated {min : Nat} {max : Option Nat} {greedy : Bool} {e : Expr}
    {s : List Frame} (hs : s ∈ (unfoldRepeated min max greedy e below).stacks)
    (h : (Frame.expr (.repeated min max greedy e) :: below).any (Frame.records j) = true) :
  s.any (Frame.records j) = true
  := by
  rw [List.any_cons, Bool.or_eq_true, Frame.records, Expr.enters] at h
  match min, max with
  | 0, some 0 =>
      obtain rfl := List.mem_singleton.1 hs
      simpa using h
  | min + 1, some 0 => cases hs
  | 0, some (max + 1) =>
      have hbelow : below.any (Frame.records j) = true := by simpa using h
      exact any_records_choice hs (by simp [hbelow]) hbelow
  | min + 1, some (max + 1) =>
      obtain rfl := List.mem_singleton.1 hs
      rcases h with he | hbelow
      · simp [Frame.records, (Bool.and_eq_true_iff.1 he).2]
      · simp [hbelow]
  | 0, none =>
      have hbelow : below.any (Frame.records j) = true := by simpa using h
      simp only [unfoldRepeated] at hs
      split at hs
      · exact any_records_choice hs (by simp [hbelow]) hbelow
      · obtain rfl := List.mem_singleton.1 hs
        simp [hbelow]
  | 1, none =>
      obtain rfl := List.mem_singleton.1 hs
      rcases h with he | hbelow
      · simp [Frame.records, (Bool.and_eq_true_iff.1 he).2]
      · simp [hbelow]
  | min + 2, none =>
      obtain rfl := List.mem_singleton.1 hs
      rcases h with he | hbelow
      · simp [Frame.records, (Bool.and_eq_true_iff.1 he).2]
      · simp [hbelow]

/-- What a stack will record it records when it is unfolded, or what it unfolds to will. -/
theorem any_records_of_mem_stacks {s : List Frame} (hs : s ∈ (unfold p stack).stacks)
    (h : stack.any (Frame.records j) = true) :
  unfold p stack = .record j s ∨ s.any (Frame.records j) = true
  := by
  match stack with
  | [] => cases hs
  | .slot i :: below =>
      obtain rfl := List.mem_singleton.1 hs
      rw [List.any_cons, Bool.or_eq_true, Frame.records] at h
      rcases h with hi | hbelow
      · left
        rw [← eq_of_beq hi]
        rfl
      · exact .inr hbelow
  | .loop greedy true e :: below =>
      obtain rfl := List.mem_singleton.1 hs
      right
      simpa [Frame.records] using h
  | .loop greedy false e :: below =>
      have hbelow : below.any (Frame.records j) = true := by simpa [Frame.records] using h
      exact .inr (any_records_choice hs (by simp [hbelow]) hbelow)
  | .expr e :: below =>
      cases e with
      | empty =>
          obtain rfl := List.mem_singleton.1 hs
          right
          simpa [Frame.records, Expr.enters] using h
      | set s => cases hs
      | anchor a =>
          simp only [unfold] at hs
          split at hs
          · obtain rfl := List.mem_singleton.1 hs
            right
            simpa [Frame.records, Expr.enters] using h
          · cases hs
      | group i e =>
          obtain rfl := List.mem_singleton.1 hs
          simp only [List.any_cons, Bool.or_eq_true, Frame.records, Expr.enters, beq_iff_eq] at h ⊢
          rcases h with (hi | he) | hbelow
          · have hend : 2 * i = j ∨ 2 * i + 1 = j := by omega
            rcases hend with hstart | hend
            · exact .inr (.inl hstart)
            · exact .inr (.inr (.inr (.inl hend)))
          · exact .inr (.inr (.inl he))
          · exact .inr (.inr (.inr (.inr hbelow)))
      | cat a b =>
          obtain rfl := List.mem_singleton.1 hs
          simp only [List.any_cons, Bool.or_eq_true, Frame.records, Expr.enters] at h ⊢
          exact .inr (or_assoc.1 h)
      | alt a b =>
          simp only [List.any_cons, Bool.or_eq_true, Bool.and_eq_true, Frame.records,
            Expr.enters] at h
          right
          rcases mem_stacks_two.1 hs with rfl | rfl
          · rw [List.any_cons, Bool.or_eq_true]
            exact h.imp And.left id
          · rw [List.any_cons, Bool.or_eq_true]
            exact h.imp And.right id
      | repeated min max greedy e => exact .inr (any_records_repeated hs h)

/-- Unfolding keeps that an end is recorded, where it records nothing. -/
theorem Records.of_mem_stacks {s : List Frame} (h : Records j stack slots)
    (hs : s ∈ (unfold p stack).stacks) (hnone : ∀ i, unfold p stack ≠ .record i s) :
  Records j s slots
  := by
  obtain ⟨hsize, hset | hstack⟩ := h
  · exact ⟨hsize, .inl hset⟩
  · rcases any_records_of_mem_stacks hs hstack with hrecord | hs
    · exact absurd hrecord (hnone j)
    · exact ⟨hsize, .inr hs⟩

/-- Unfolding keeps that an end is recorded, where it records one. -/
theorem Records.of_record {i : Nat} {s : List Frame} (h : Records j stack slots)
    (hu : unfold p stack = .record i s) :
  Records j s (slots.setIfInBounds i (some p.index))
  := by
  obtain ⟨hsize, hrecords⟩ := h
  refine ⟨by rwa [Array.size_setIfInBounds], ?_⟩
  rw [Array.getElem?_setIfInBounds]
  by_cases hij : i = j
  · left
    rw [if_pos hij, if_pos (hij ▸ hsize)]
    rfl
  · rw [if_neg hij]
    apply hrecords.imp_right
    intro hstack
    have hs : s ∈ (unfold p stack).stacks := by
      rw [hu]
      exact List.mem_singleton_self s
    rcases any_records_of_mem_stacks hs hstack with hrecord | hs
    · rw [hu] at hrecord
      cases hrecord
      exact absurd rfl hij
    · exact hs

/-! ### Searching -/

/-- The threads of a frontier record an end if the stack that is unfolded does. -/
theorem records_explore (slots : Slots) (stack : List Frame) (f : Frontier)
    (hf : ∀ t ∈ f.threads, Records j t.stack t.slots) (h : Records j stack slots) :
  ∀ t ∈ (explore p slots stack f).threads, Records j t.stack t.slots
  := by
  fun_induction explore p slots stack f with
  | case1 slots stack f hseen => exact hf
  | case2 slots stack f hseen f' hl hu => exact List.forall_mem_cons.2 ⟨h, hf⟩
  | case3 slots stack f hseen f' hl hu => exact hf
  | case4 slots stack f hseen f' hl s hu hlt ih =>
      apply ih hf
      apply h.of_mem_stacks
      · rw [hu]
        exact List.mem_singleton_self s
      · rw [hu]
        exact fun i => Unfolding.noConfusion
  | case5 slots stack f hseen f' hl i s hu hlt ih => exact ih hf (h.of_record hu)
  | case6 slots stack f hseen f' hl s t hu hs ht ih _ ih' =>
      have hkept (u : List Frame) (hmem : u ∈ (Unfolding.two s t).stacks) : Records j u slots := by
        apply h.of_mem_stacks
        · rw [hu]
          exact hmem
        · rw [hu]
          exact fun i => Unfolding.noConfusion
      exact ih' (ih hf (hkept s (mem_stacks_two.2 (.inl rfl)))) (hkept t (mem_stacks_two.2 (.inr rfl)))

/-- Reading a character keeps what will be recorded. -/
theorem any_records_reset (stack : List Frame) :
  (resetStack stack).any (Frame.records j) = stack.any (Frame.records j)
  := by
  rw [resetStack, List.any_map]
  congr 1
  funext f
  cases f <;> rfl

theorem records_advanceAll (c : Option Char) (next : Place) (f : Frontier) (ts : List Thread)
    (hf : ∀ t ∈ f.threads, Records j t.stack t.slots)
    (hts : ∀ t ∈ ts, Records j t.stack t.slots) :
  (∀ t ∈ (advanceAll c next f ts).1.threads, Records j t.stack t.slots) ∧
    ∀ slots ∈ (advanceAll c next f ts).2, Records j [] slots
  := by
  induction ts generalizing f with
  | nil => exact ⟨hf, fun slots hslots => absurd hslots (Option.not_mem_none slots)⟩
  | cons t ts ih =>
      obtain ⟨ht, hts⟩ := List.forall_mem_cons.1 hts
      rw [advanceAll]
      rcases t.advance_cases c with ⟨hstack, h⟩ | ⟨s, below, hstack, -, h⟩ | ⟨-, h, -⟩
      · simp only [h]
        refine ⟨hf, fun slots hslots => ?_⟩
        rw [hstack] at ht
        rwa [← Option.some.inj hslots]
      · simp only [h]
        refine ih _ (records_explore _ _ _ hf ?_) hts
        obtain ⟨hsize, hrecords⟩ := ht
        refine ⟨hsize, ?_⟩
        rw [any_records_reset]
        rw [hstack] at hrecords
        simpa [Frame.records, Expr.enters] using hrecords
      · simp only [h]
        exact ih f hf hts

/-- A match that is found has recorded what the stack that it started with records. -/
theorem records_searchFrom (start : List Frame) (slots : Slots) (index : Nat)
    (before : Option Char) (f : Frontier) (best : Option Slots) (cs : List Char)
    (hstart : Records j start slots) (hf : ∀ t ∈ f.threads, Records j t.stack t.slots)
    (hbest : ∀ found ∈ best, Records j [] found) :
  ∀ found ∈ searchFrom start slots index before f best cs, Records j [] found
  := by
  have hopened (index : Nat) (before : Option Char) (f : Frontier) (best : Option Slots)
      (cs : List Char) (hf : ∀ t ∈ f.threads, Records j t.stack t.slots) :
      ∀ t ∈ (opened start slots index before f best cs).threads.reverse,
        Records j t.stack t.slots := by
    intro t ht
    rw [List.mem_reverse, opened] at ht
    split at ht
    · exact records_explore _ _ _ hf hstart t ht
    · exact hf t ht
  have hor {x y : Option Slots} (hx : ∀ found ∈ x, Records j [] found)
      (hy : ∀ found ∈ y, Records j [] found) : ∀ found ∈ x.or y, Records j [] found := by
    cases x with
    | none => exact hy
    | some found => exact hx
  have hempty : ∀ t ∈ Frontier.empty.threads, Records j t.stack t.slots :=
    fun t ht => absurd ht List.not_mem_nil
  induction cs generalizing index before f best with
  | nil =>
      rw [searchFrom_nil]
      exact hor (records_advanceAll _ _ _ _ hempty (hopened _ _ _ _ _ hf)).2 hbest
  | cons c rest ih =>
      obtain ⟨hthreads, hfound⟩ := records_advanceAll (some c) (placeAt (index + 1) (some c) rest)
        .empty _ hempty (hopened index before f best (c :: rest) hf)
      rw [searchFrom_cons]
      simp only
      split
      · exact hor hfound hbest
      · exact ih _ _ _ _ hthreads (hor hfound hbest)

/-- The whole match, and a group that an expression cannot pass by, are captured in every match. -/
theorem isSome_groupText_of_search {e : Expr} {index : Nat} {before : Option Char}
    {cs text : List Char} (h : search e index before cs = some slots)
    (hgroup : group = 0 ∨ e.enters group = true) :
  (groupText text slots group).isSome = true
  := by
  have hcount : group < e.groupCount := by
    rcases hgroup with rfl | henters
    · exact e.groupCount_pos
    · exact Expr.lt_groupCount_of_enters henters
  have hend (j : Nat) (hj : j / 2 = group) : slots[j]?.join.isSome = true := by
    have hstart : Records j (startStack e) (Array.replicate (2 * e.groupCount) none) := by
      refine ⟨by rw [Array.size_replicate]; omega, .inr ?_⟩
      rw [startStack]
      simp only [List.any_cons, List.any_nil, Bool.or_false, Bool.or_eq_true, Frame.records, hj,
        beq_iff_eq]
      rcases hgroup with rfl | henters
      · omega
      · exact .inr (.inl henters)
    obtain ⟨-, hset | hnone⟩ := records_searchFrom (startStack e) _ index before .empty none cs
      hstart (fun t ht => absurd ht List.not_mem_nil) (fun found hfound => absurd hfound (Option.not_mem_none found)) slots h
    · exact hset
    · cases hnone
  obtain ⟨i, hi⟩ := Option.isSome_iff_exists.1 (hend (2 * group) (by omega))
  obtain ⟨k, hk⟩ := Option.isSome_iff_exists.1 (hend (2 * group + 1) (by omega))
  rw [groupText, hi, hk]
  rfl

/-! ### All matches -/

/-- The first of all matches is the one that a search finds. -/
theorem head?_searchAll (e : Expr) (text : List Char) :
  (searchAll e text).head? = search e 0 none text
  := by
  rw [searchAll, allFrom]
  unfold nextMatch
  cases search e 0 none text <;> rfl

end PageModel.Regex
