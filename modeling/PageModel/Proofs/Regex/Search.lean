import PageModel.Proofs.Regex.Stack

/-!
# Searches find what there is

A search finds a match if there is one, and only then (`isSome_search_iff`, `isMatch_iff`). At every
place of the text the threads stand for all the ways on which a match may still be found: what they
can match leads to a match, and a stack that has been unfolded there and can match has a thread that can
(`isLive_of_mem_seen`). That is so because the stacks that have been unfolded at a place are closed
under unfolding (`Frontier.Closed`): a stack is passed over only if one that leads to the same ends has
been unfolded, and a loop is left only after a round of it has been begun (`Entered`). So an empty round
of a loop, where it is preferred, is the whole match (`search_repeated_empty_alt`).
-/

namespace PageModel.Regex

variable {before cs : List Char} {p : Place} {stack : List Frame} {f g : Frontier}

/-! ### Frontiers -/

/-- Whether a thread waits for a character or has come to its end, and can match from a place. -/
def Thread.IsLive (t : Thread) (before cs : List Char) : Prop :=
  (t.stack = [] ∨ ∃ s below, t.stack = .expr (.set s) :: below) ∧ CanMatch true t.stack before cs

/-- Whether some thread is live. -/
def Frontier.IsLive (f : Frontier) (before cs : List Char) : Prop :=
  ∃ t ∈ f.threads, t.IsLive before cs

theorem Frontier.IsLive.mono (h : f.IsLive before cs) (hsub : f.threads ⊆ g.threads) :
  g.IsLive before cs
  := by
  obtain ⟨t, ht, hlive⟩ := h
  exact ⟨t, hsub ht, hlive⟩

/-- Whether a frontier has a thread for a stack that is ready, and has unfolded the stacks that another
one unfolds to. Which loops have been entered is left out of account. -/
def Frontier.Follows (f : Frontier) (p : Place) (stack : List Frame) : Prop :=
  (unfold p stack = .ready → ∃ t ∈ f.threads,
    unfold p t.stack = .ready ∧ resetStack t.stack = resetStack stack) ∧
      ∀ s ∈ (unfold p stack).stacks, resetStack s ∈ f.seen

/-- Whether a frontier follows all stacks that have been unfolded. -/
def Frontier.Closed (f : Frontier) (p : Place) : Prop :=
  ∀ s ∈ f.seen, f.Follows p s

theorem closed_empty (p : Place) :
  Frontier.empty.Closed p
  := fun _ hs => absurd hs List.not_mem_nil

theorem Frontier.Follows.mono (h : f.Follows p stack) (hthreads : f.threads ⊆ g.threads)
    (hseen : f.seen ⊆ g.seen) :
  g.Follows p stack
  := by
  obtain ⟨hready, hstacks⟩ := h
  constructor
  · intro hu
    obtain ⟨t, ht, heq⟩ := hready hu
    exact ⟨t, hthreads ht, heq⟩
  · exact fun s hs => hseen (hstacks s hs)

/-- Whether of every entered loop of a stack a round has been begun. -/
def Entered (seen : List (List Frame)) : List Frame → Prop
  | [] => True
  | .slot _ :: below => Entered seen below
  | .expr _ :: below => Entered seen below
  | .loop greedy entered e :: below =>
      (entered = true →
        .expr e :: .loop greedy false e :: resetStack below ∈ seen) ∧ Entered seen below

theorem Entered.mono {seen seen' : List (List Frame)} (h : Entered seen stack)
    (hsub : seen ⊆ seen') :
  Entered seen' stack
  := by
  induction stack with
  | nil => trivial
  | cons f below ih =>
      cases f with
      | slot i => exact ih h
      | expr e => exact ih h
      | loop greedy entered e => exact ⟨fun hentered => hsub (h.1 hentered), ih h.2⟩

/-- After a character has been read no loop is entered. -/
theorem entered_reset (seen : List (List Frame)) (stack : List Frame) :
  Entered seen (resetStack stack)
  := by
  induction stack with
  | nil => trivial
  | cons f below ih =>
      cases f with
      | slot i => exact ih
      | expr e => exact ih
      | loop greedy entered e => exact ⟨fun h => absurd h Bool.false_ne_true, ih⟩

/-! ### Following a stack -/

/-- Where no entered loop is on top of a stack, it is followed as it is after a character has been
read. -/
theorem follows_reset_iff (hstack : ∀ greedy e below, stack ≠ .loop greedy true e :: below) :
  f.Follows p (resetStack stack) ↔ f.Follows p stack
  := by
  have hfollows (stack : List Frame) : f.Follows p stack ↔
      ((unfold p stack).reset = .ready → ∃ t ∈ f.threads,
        unfold p t.stack = .ready ∧ resetStack t.stack = resetStack stack) ∧
      ∀ s ∈ (unfold p stack).reset.stacks, s ∈ f.seen := by
    rw [Frontier.Follows, reset_eq_ready_iff, stacks_reset, List.forall_mem_map]
  rw [hfollows, hfollows, unfold_reset p hstack, resetStack_resetStack]

/-- A stack with an entered loop on top is followed where the loop is left. -/
theorem follows_entered_iff {greedy : Bool} {e : Expr} {below : List Frame} :
  f.Follows p (.loop greedy true e :: below) ↔ resetStack below ∈ f.seen
  := by
  simp [Frontier.Follows, unfold, Unfolding.stacks]

/-- A stack with another loop on top is followed where a round of it is begun and it is left. -/
theorem follows_loop_iff {greedy : Bool} {e : Expr} {below : List Frame} :
  f.Follows p (.loop greedy false e :: below) ↔
    .expr e :: .loop greedy false e :: resetStack below ∈ f.seen ∧
      resetStack below ∈ f.seen
  := by
  simp [Frontier.Follows, unfold, choice_ne_ready, mem_stacks_choice, resetStack_cons, Frame.reset]

/-- A stack is followed where it is followed as it is after a character has been read. -/
theorem Frontier.Follows.of_reset (h : f.Follows p (resetStack stack)) :
  f.Follows p stack
  := by
  by_cases htop : ∃ greedy e below, stack = .loop greedy true e :: below
  · obtain ⟨greedy, e, below, rfl⟩ := htop
    have h : f.Follows p (.loop greedy false e :: resetStack below) := h
    have hleave := (follows_loop_iff.1 h).2
    rw [resetStack_resetStack] at hleave
    exact follows_entered_iff.2 hleave
  · simp only [not_exists] at htop
    exact (follows_reset_iff htop).1 h

/-- A stack that is followed is followed as it is after a character has been read, if of each entered
loop a round has been begun. -/
theorem Frontier.Follows.reset (h : f.Follows p stack) (hentered : Entered f.seen stack) :
  f.Follows p (resetStack stack)
  := by
  by_cases htop : ∃ greedy e below, stack = .loop greedy true e :: below
  · obtain ⟨greedy, e, below, rfl⟩ := htop
    have hreset : f.Follows p (.loop greedy false e :: resetStack below) := by
      rw [follows_loop_iff, resetStack_resetStack]
      exact ⟨hentered.1 rfl, follows_entered_iff.1 h⟩
    exact hreset
  · simp only [not_exists] at htop
    exact (follows_reset_iff htop).2 h

/-! ### Unfolding to threads -/

/-- The threads that a stack is unfolded to can match only where the stack can. -/
theorem canMatch_of_mem_explore (hbefore : p.before = before.head?) (hafter : p.after = cs.head?)
    (slots : Slots) (stack : List Frame) (f : Frontier) :
  ∀ t ∈ (explore p slots stack f).threads, t ∈ f.threads ∨
    (CanMatch true t.stack before cs → CanMatch true stack before cs)
  := by
  have hone {s stack : List Frame} (hs : s ∈ (unfold p stack).stacks) :
      CanMatch true s before cs → CanMatch true stack before cs :=
    canMatch_of_mem_stacks hbefore hafter hs
  fun_induction explore p slots stack f with
  | case1 slots stack f hseen => exact fun t ht => .inl ht
  | case2 slots stack f hseen f' hl hu =>
      intro t ht
      rcases List.mem_cons.1 ht with rfl | ht
      · exact .inr id
      · exact .inl ht
  | case3 slots stack f hseen f' hl hu => exact fun t ht => .inl ht
  | case4 slots stack f hseen f' hl s hu hlt ih =>
      intro t ht
      rcases ih t ht with hold | hcan
      · exact .inl hold
      · exact .inr fun h => hone (by rw [hu]; exact List.mem_singleton_self _) (hcan h)
  | case5 slots stack f hseen f' hl i s hu hlt ih =>
      intro t ht
      rcases ih t ht with hold | hcan
      · exact .inl hold
      · exact .inr fun h => hone (by rw [hu]; exact List.mem_singleton_self _) (hcan h)
  | case6 slots stack f hseen f' hl s t hu hs ht ih _ ih' =>
      intro u hu'
      rcases ih' u hu' with hfirst | hcan
      · rcases ih u hfirst with hold | hcan
        · exact .inl hold
        · exact .inr fun h => hone (by rw [hu]; exact mem_stacks_two.2 (.inl rfl)) (hcan h)
      · exact .inr fun h => hone (by rw [hu]; exact mem_stacks_two.2 (.inr rfl)) (hcan h)

theorem entered_of_mem_stacks_repeated {seen : List (List Frame)} {below : List Frame} {min : Nat}
    {max : Option Nat} {greedy : Bool} {e : Expr} (h : Entered seen below)
    (hs : stack ∈ (unfoldRepeated min max greedy e below).stacks) :
  Entered (resetStack stack :: seen) stack
  := by
  have hbelow := h.mono (List.subset_cons_self (resetStack stack) seen)
  match min, max with
  | 0, some 0 =>
      obtain rfl := List.mem_singleton.1 hs
      exact hbelow
  | min + 1, some 0 => cases hs
  | 0, some (max + 1) =>
      rcases mem_stacks_choice.1 hs with rfl | rfl
      · exact hbelow
      · exact hbelow
  | min + 1, some (max + 1) =>
      obtain rfl := List.mem_singleton.1 hs
      exact hbelow
  | 0, none =>
      simp only [unfoldRepeated] at hs
      split at hs
      · rcases mem_stacks_choice.1 hs with rfl | rfl
        · exact ⟨fun _ => List.mem_cons_self, hbelow⟩
        · exact hbelow
      · obtain rfl := List.mem_singleton.1 hs
        exact ⟨fun h => absurd h Bool.false_ne_true, hbelow⟩
  | 1, none =>
      obtain rfl := List.mem_singleton.1 hs
      exact ⟨fun _ => List.mem_cons_self, hbelow⟩
  | min + 2, none =>
      obtain rfl := List.mem_singleton.1 hs
      exact hbelow

/-- A loop is entered with a round of it, which is unfolded next. -/
theorem entered_of_mem_stacks {seen : List (List Frame)} {s : List Frame} (h : Entered seen stack)
    (hs : s ∈ (unfold p stack).stacks) :
  Entered (resetStack s :: seen) s
  := by
  have hmono {below : List Frame} (hbelow : Entered seen below) :
      Entered (resetStack s :: seen) below := hbelow.mono (List.subset_cons_self _ _)
  match stack with
  | [] => cases hs
  | .slot i :: below =>
      obtain rfl := List.mem_singleton.1 hs
      exact hmono h
  | .loop greedy true e :: below =>
      obtain rfl := List.mem_singleton.1 hs
      exact hmono h.2
  | .loop greedy false e :: below =>
      rcases mem_stacks_choice.1 hs with rfl | rfl
      · exact ⟨fun _ => List.mem_cons_self, hmono h.2⟩
      · exact hmono h.2
  | .expr e :: below =>
      cases e with
      | empty =>
          obtain rfl := List.mem_singleton.1 hs
          exact hmono h
      | set s => cases hs
      | anchor a =>
          simp only [unfold] at hs
          split at hs
          · obtain rfl := List.mem_singleton.1 hs
            exact hmono h
          · cases hs
      | group i e =>
          obtain rfl := List.mem_singleton.1 hs
          exact hmono h
      | cat e f =>
          obtain rfl := List.mem_singleton.1 hs
          exact hmono h
      | alt e f =>
          rcases mem_stacks_two.1 hs with rfl | rfl
          · exact hmono h
          · exact hmono h
      | repeated min max greedy e =>
          have hbelow : Entered seen below := h
          exact entered_of_mem_stacks_repeated hbelow hs

/-- What unfolding a stack makes of a frontier: the stack is among those that have been unfolded, and
what is new among them is followed. -/
structure Explored (p : Place) (stack : List Frame) (f g : Frontier) : Prop where
  threads : f.threads ⊆ g.threads
  seen : f.seen ⊆ g.seen
  mem : resetStack stack ∈ g.seen
  follows : ∀ s ∈ g.seen, s ∈ f.seen ∨ g.Follows p s

/-- A stack that is marked has been unfolded when it is followed. -/
theorem explored_of_marked (hentered : Entered (resetStack stack :: f.seen) stack)
    (hthreads : f.threads ⊆ g.threads) (hseen : resetStack stack :: f.seen ⊆ g.seen)
    (hfollows : g.Follows p stack)
    (hnew : ∀ s ∈ g.seen, s ∈ resetStack stack :: f.seen ∨ g.Follows p s) :
  Explored p stack f g
  := by
  refine ⟨hthreads, (List.cons_subset.1 hseen).2, (List.cons_subset.1 hseen).1, fun s hs => ?_⟩
  rcases hnew s hs with hold | hfollowed
  · rcases List.mem_cons.1 hold with rfl | hold
    · exact .inr (hfollows.reset (hentered.mono hseen))
    · exact .inl hold
  · exact .inr hfollowed

theorem explored_explore (slots : Slots) (stack : List Frame) (f : Frontier)
    (hentered : Entered (resetStack stack :: f.seen) stack) :
  Explored p stack f (explore p slots stack f)
  := by
  -- the induction is on the unfolding; what leads to a stack is marked but not yet followed
  fun_induction explore p slots stack f with
  | case1 slots stack f hseen =>
      exact ⟨List.Subset.refl _, List.Subset.refl _, List.contains_iff_mem.1 hseen,
        fun s hs => .inl hs⟩
  | case2 slots stack f hseen f' hl hu =>
      refine explored_of_marked hentered (List.subset_cons_self _ _) (List.Subset.refl f'.seen) ?_ ?_
      · rw [Frontier.Follows, hu]
        exact ⟨fun _ => ⟨_, List.mem_cons_self, hu, rfl⟩, List.forall_mem_nil _⟩
      · exact fun s hs => .inl hs
  | case3 slots stack f hseen f' hl hu =>
      refine explored_of_marked hentered (List.Subset.refl f.threads) (List.Subset.refl f'.seen) ?_ ?_
      · rw [Frontier.Follows, hu]
        exact ⟨Unfolding.noConfusion, List.forall_mem_nil _⟩
      · exact fun s hs => .inl hs
  | case4 slots stack f hseen f' hl s hu hlt ih =>
      have hs : s ∈ (unfold p stack).stacks := by
        rw [hu]
        exact List.mem_singleton_self s
      have h := ih (entered_of_mem_stacks hentered hs)
      apply explored_of_marked hentered h.threads h.seen _ h.follows
      rw [Frontier.Follows, hu]
      exact ⟨Unfolding.noConfusion, List.forall_mem_singleton.2 h.mem⟩
  | case5 slots stack f hseen f' hl i s hu hlt ih =>
      have hs : s ∈ (unfold p stack).stacks := by
        rw [hu]
        exact List.mem_singleton_self s
      have h := ih (entered_of_mem_stacks hentered hs)
      apply explored_of_marked hentered h.threads h.seen _ h.follows
      rw [Frontier.Follows, hu]
      exact ⟨Unfolding.noConfusion, List.forall_mem_singleton.2 h.mem⟩
  | case6 slots stack f hseen f' hl s t hu hs ht ih _ ih' =>
      have hmem {u : List Frame} (hu' : u = s ∨ u = t) : u ∈ (unfold p stack).stacks := by
        rw [hu]
        exact mem_stacks_two.2 hu'
      have h := ih (entered_of_mem_stacks hentered (hmem (.inl rfl)))
      have h' := ih' (entered_of_mem_stacks (hentered.mono h.seen) (hmem (.inr rfl)))
      apply explored_of_marked hentered (List.Subset.trans h.threads h'.threads)
        (List.Subset.trans h.seen h'.seen)
      · rw [Frontier.Follows, hu]
        exact ⟨Unfolding.noConfusion,
          List.forall_mem_cons.2 ⟨h'.seen h.mem, List.forall_mem_singleton.2 h'.mem⟩⟩
      · intro u hu'
        rcases h'.follows u hu' with hold | hfollowed
        · exact (h.follows u hold).imp_right fun hfollowed => hfollowed.mono h'.threads h'.seen
        · exact .inr hfollowed

/-- A closed frontier stays closed. -/
theorem Explored.closed (h : Explored p stack f g) (hf : f.Closed p) :
  g.Closed p
  := by
  intro s hs
  rcases h.follows s hs with hold | hfollowed
  · exact (hf s hold).mono h.threads h.seen
  · exact hfollowed

theorem stackWeight_lt_of_mem_stacks {s : List Frame} (hs : s ∈ (unfold p stack).stacks) :
  stackWeight s < stackWeight stack
  := by
  have hlighter := unfold_lighter p stack
  revert hs hlighter
  cases unfold p stack with
  | ready => exact fun hs => absurd hs List.not_mem_nil
  | dead => exact fun hs => absurd hs List.not_mem_nil
  | one t =>
      rintro hs hlighter
      obtain rfl := List.mem_singleton.1 hs
      exact hlighter
  | record i t =>
      rintro hs hlighter
      obtain rfl := List.mem_singleton.1 hs
      exact hlighter
  | two t u =>
      rintro hs ⟨ht, hu⟩
      rcases mem_stacks_two.1 hs with rfl | rfl
      · exact ht
      · exact hu

/-- In a closed frontier there is a live thread for every stack that has been unfolded and can match. -/
theorem isLive_of_mem_seen {stack : List Frame} (hbefore : p.before = before.head?)
    (hafter : p.after = cs.head?) (hf : f.Closed p) (hseen : resetStack stack ∈ f.seen)
    (hcan : CanMatch false stack before cs) :
  f.IsLive before cs
  := by
  have hfollows := (hf _ hseen).of_reset
  rcases exists_mem_stacks hbefore hafter hcan with hready | ⟨s, hs, hcan'⟩
  · obtain ⟨t, ht, htready, heq⟩ := hfollows.1 hready
    have hreset : CanMatch false (resetStack t.stack) before cs := by
      rw [heq]
      exact canMatch_reset_iff.2 hcan.of_moved
    exact ⟨t, ht, eq_of_unfold_eq_ready htready, canMatch_reset_iff.1 hreset⟩
  · exact isLive_of_mem_seen hbefore hafter hf (hfollows.2 s hs) hcan'
termination_by stackWeight stack
decreasing_by exact stackWeight_lt_of_mem_stacks hs

/-! ### Reading a character -/

/-- A thread has come to its end, or waits for a character such as the next one, or fails. -/
theorem Thread.advance_cases (t : Thread) (c : Option Char) :
  (t.stack = [] ∧ t.advance c = .found t.slots) ∨
    (∃ s below, t.stack = .expr (.set s) :: below ∧ c.any s.contains = true ∧
      t.advance c = .waits (resetStack below) t.slots) ∨
    (t.stack ≠ [] ∧ t.advance c = .fails ∧
      ∀ s below, t.stack = .expr (.set s) :: below → c.any s.contains = false)
  := by
  unfold Thread.advance
  split
  · next hstack => exact .inl ⟨hstack, rfl⟩
  · next s below hstack =>
      right
      cases hc : c.any s.contains with
      | false =>
          right
          refine ⟨by simp [hstack], rfl, fun s' below' heq => ?_⟩
          cases hstack.symm.trans heq
          exact hc
      | true => exact .inl ⟨s, below, hstack, hc, rfl⟩
  · next hempty hset => exact .inr (.inr ⟨hempty, rfl, fun s below h => absurd h (hset s below)⟩)

/-- A match is found where a thread has come to its end. -/
theorem isSome_advanceAll_iff (c : Option Char) (next : Place) (f : Frontier) (ts : List Thread) :
  (advanceAll c next f ts).2.isSome = true ↔ ∃ t ∈ ts, t.stack = []
  := by
  induction ts generalizing f with
  | nil => simp [advanceAll]
  | cons t ts ih =>
      rw [advanceAll]
      rcases t.advance_cases c with ⟨hstack, h⟩ | ⟨s, below, hstack, -, h⟩ | ⟨hstack, h, -⟩
      · simp [h, hstack]
      · simp [h, hstack, ih]
      · simp [h, hstack, ih]

/-- The threads after a character can match only where some thread before it can. -/
theorem canMatch_of_mem_advanceAll {c : Char} {next : Place}
    (hbefore : next.before = (c :: before).head?) (hafter : next.after = cs.head?) (f : Frontier)
    (ts : List Thread) :
  ∀ t ∈ (advanceAll (some c) next f ts).1.threads, CanMatch true t.stack (c :: before) cs →
    t ∈ f.threads ∨ ∃ t' ∈ ts, CanMatch true t'.stack before (c :: cs)
  := by
  induction ts generalizing f with
  | nil => exact fun t ht _ => .inl ht
  | cons t ts ih =>
      intro u hu hcan
      have hrest {f : Frontier} (hu : u ∈ (advanceAll (some c) next f ts).1.threads) :
          u ∈ f.threads ∨ ∃ t' ∈ t :: ts, CanMatch true t'.stack before (c :: cs) := by
        rcases ih f u hu hcan with hold | ⟨t', ht', hcan'⟩
        · exact .inl hold
        · exact .inr ⟨t', List.mem_cons_of_mem _ ht', hcan'⟩
      rw [advanceAll] at hu
      rcases t.advance_cases (some c) with ⟨-, h⟩ | ⟨s, below, hstack, hc, h⟩ | ⟨-, h, -⟩
      · simp only [h] at hu
        exact .inl hu
      · simp only [h] at hu
        rcases hrest hu with hexplored | hfound
        · rcases canMatch_of_mem_explore hbefore hafter _ _ _ u hexplored with hold | himp
          · exact .inl hold
          · right
            refine ⟨t, List.mem_cons_self, ?_⟩
            rw [hstack]
            exact canMatch_set_iff.2 ⟨hc, canMatch_reset_iff.1 (himp hcan)⟩
        · exact .inr hfound
      · simp only [h] at hu
        exact hrest hu

/-- A thread that is live before a character leads to a match or to one that is live after it. -/
theorem isLive_advanceAll {c : Char} {next : Place} (hbefore : next.before = (c :: before).head?)
    (hafter : next.after = cs.head?) (f : Frontier) (ts : List Thread) (hf : f.Closed next) :
  f.threads ⊆ (advanceAll (some c) next f ts).1.threads ∧
    (advanceAll (some c) next f ts).1.Closed next ∧
    ∀ t ∈ ts, t.IsLive before (c :: cs) →
      (advanceAll (some c) next f ts).2.isSome = true ∨
        (advanceAll (some c) next f ts).1.IsLive (c :: before) cs
  := by
  induction ts generalizing f with
  | nil => exact ⟨List.Subset.refl _, hf, List.forall_mem_nil _⟩
  | cons t ts ih =>
      rw [advanceAll]
      rcases t.advance_cases (some c) with ⟨-, h⟩ | ⟨s, below, hstack, -, h⟩ | ⟨hempty, h, hset⟩
      · simp only [h]
        exact ⟨List.Subset.refl _, hf, fun _ _ _ => .inl rfl⟩
      · simp only [h]
        have hexplored : Explored next (resetStack below) f
            (explore next t.slots (resetStack below) f) :=
          explored_explore t.slots (resetStack below) f (entered_reset _ below)
        obtain ⟨hsub, hclosed, hlive⟩ := ih _ (hexplored.closed hf)
        refine ⟨List.Subset.trans hexplored.threads hsub, hclosed, fun u hu hu' => ?_⟩
        rcases List.mem_cons.1 hu with rfl | hu
        · obtain ⟨-, hcan⟩ := hu'
          rw [hstack] at hcan
          have hbelow : CanMatch false (resetStack below) (c :: before) cs :=
            canMatch_reset_iff.2 (canMatch_set_iff.1 hcan).2
          have hnext := isLive_of_mem_seen hbefore hafter (hexplored.closed hf) hexplored.mem hbelow
          exact .inr (hnext.mono hsub)
        · exact hlive u hu hu'
      · simp only [h]
        obtain ⟨hsub, hclosed, hlive⟩ := ih f hf
        refine ⟨hsub, hclosed, fun u hu hu' => ?_⟩
        rcases List.mem_cons.1 hu with rfl | hu
        · obtain ⟨hstack | ⟨s, below, hstack⟩, hcan⟩ := hu'
          · exact absurd hstack hempty
          · rw [hstack] at hcan
            exact absurd ((hset s below hstack).symm.trans (canMatch_set_iff.1 hcan).1)
              Bool.false_ne_true
        · exact hlive u hu hu'

/-! ### Searching -/

/-- The frontier at a place, with the threads of a match that starts there as long as there is none. -/
def opened (start : List Frame) (slots : Slots) (index : Nat) (before : Option Char) (f : Frontier)
    (best : Option Slots) (cs : List Char) : Frontier :=
  if best.isNone then explore (placeAt index before cs) slots start f else f

section

variable (start : List Frame) (slots : Slots) (index : Nat) (f : Frontier) (best : Option Slots)

theorem canMatch_of_mem_opened :
  ∀ t ∈ (opened start slots index before.head? f best cs).threads,
    CanMatch true t.stack before cs → t ∈ f.threads ∨ CanMatch true start before cs
  := by
  unfold opened
  intro t ht hcan
  split at ht
  · rcases canMatch_of_mem_explore rfl rfl slots start f t ht with hold | himp
    · exact .inl hold
    · exact .inr (himp hcan)
  · exact .inl ht

theorem closed_opened (hstart : resetStack start = start)
    (hf : f.Closed (placeAt index before.head? cs)) :
  f.threads ⊆ (opened start slots index before.head? f best cs).threads ∧
    (opened start slots index before.head? f best cs).Closed (placeAt index before.head? cs) ∧
    (best = none → start ∈ (opened start slots index before.head? f best cs).seen)
  := by
  cases best with
  | some found => exact ⟨List.Subset.refl _, hf, fun h => absurd h (Option.some_ne_none found)⟩
  | none =>
      have hentered : Entered (resetStack start :: f.seen) start := by
        rw [← hstart]
        apply entered_reset
      have hexplored := explored_explore (p := placeAt index before.head? cs) slots start f hentered
      have hmem := hexplored.mem
      rw [hstart] at hmem
      exact ⟨hexplored.threads, hexplored.closed hf, fun _ => hmem⟩

end

theorem searchFrom_nil (start : List Frame) (slots : Slots) (index : Nat) (before : Option Char)
    (f : Frontier) (best : Option Slots) :
  searchFrom start slots index before f best [] =
    (advanceAll none (placeAt (index + 1) none []) .empty
      (opened start slots index before f best []).threads.reverse).2.or best
  := by
  rw [searchFrom]
  rfl

theorem searchFrom_cons (start : List Frame) (slots : Slots) (index : Nat) (before : Option Char)
    (f : Frontier) (best : Option Slots) (c : Char) (rest : List Char) :
  searchFrom start slots index before f best (c :: rest) =
    let (g, found) := advanceAll (some c) (placeAt (index + 1) (some c) rest) .empty
      (opened start slots index before f best (c :: rest)).threads.reverse
    if g.threads.isEmpty && (found.or best).isSome then found.or best
    else searchFrom start slots (index + 1) (some c) g (found.or best) rest
  := by
  rw [searchFrom]
  rfl

/-- A search finds a match only if one was found before, or a thread can match, or a match may start at
the place or after it. -/
theorem exists_of_isSome_searchFrom (start : List Frame) (slots : Slots) (index : Nat)
    (before : List Char) (f : Frontier) (best : Option Slots) (cs : List Char)
    (h : (searchFrom start slots index before.head? f best cs).isSome = true) :
  best.isSome = true ∨ (∃ t ∈ f.threads, CanMatch true t.stack before cs) ∨
    ∃ pre rest, cs = pre ++ rest ∧ CanMatch true start (pre.reverse ++ before) rest
  := by
  induction cs generalizing index before f best with
  | nil =>
      rw [searchFrom_nil, Option.isSome_or, Bool.or_eq_true] at h
      rcases h with hfound | hbest
      · obtain ⟨t, ht, hstack⟩ := (isSome_advanceAll_iff _ _ _ _).1 hfound
        have hcan : CanMatch true t.stack before [] := by
          rw [hstack]
          trivial
        rcases canMatch_of_mem_opened start slots index f best t (List.mem_reverse.1 ht) hcan with
          hold | hstart
        · exact .inr (.inl ⟨t, hold, hcan⟩)
        · exact .inr (.inr ⟨[], [], rfl, hstart⟩)
      · exact .inl hbest
  | cons c rest ih =>
      have hopened {t : Thread} (ht : t ∈ (opened start slots index before.head? f best
          (c :: rest)).threads.reverse) (hcan : CanMatch true t.stack before (c :: rest)) :
          (∃ t ∈ f.threads, CanMatch true t.stack before (c :: rest)) ∨
            ∃ pre rest', c :: rest = pre ++ rest' ∧
              CanMatch true start (pre.reverse ++ before) rest' := by
        rcases canMatch_of_mem_opened start slots index f best t (List.mem_reverse.1 ht) hcan with
          hold | hstart
        · exact .inl ⟨t, hold, hcan⟩
        · exact .inr ⟨[], c :: rest, rfl, hstart⟩
      have hfound : ((advanceAll (some c) (placeAt (index + 1) (some c) rest) .empty
          (opened start slots index before.head? f best (c :: rest)).threads.reverse).2.or
            best).isSome = true →
          best.isSome = true ∨ (∃ t ∈ f.threads, CanMatch true t.stack before (c :: rest)) ∨
            ∃ pre rest', c :: rest = pre ++ rest' ∧
              CanMatch true start (pre.reverse ++ before) rest' := by
        rw [Option.isSome_or, Bool.or_eq_true]
        rintro (hfound | hbest)
        · obtain ⟨t, ht, hstack⟩ := (isSome_advanceAll_iff _ _ _ _).1 hfound
          refine .inr (hopened ht ?_)
          rw [hstack]
          trivial
        · exact .inl hbest
      rw [searchFrom_cons] at h
      simp only at h
      split at h
      · exact hfound h
      · rcases ih (index + 1) (c :: before) _ _ h with hbest | ⟨t, ht, hcan⟩ | ⟨pre, rest', rfl, hcan⟩
        · exact hfound hbest
        · rcases canMatch_of_mem_advanceAll rfl rfl _ _ t ht hcan with hold | ⟨t', ht', hcan'⟩
          · cases hold
          · exact .inr (hopened ht' hcan')
        · refine .inr (.inr ⟨c :: pre, rest', rfl, ?_⟩)
          rw [List.reverse_cons, List.append_assoc]
          exact hcan

/-- A search finds a match if one was found before, or a thread is live, or a match may start at the
place or after it. -/
theorem isSome_searchFrom (start : List Frame) (slots : Slots) (index : Nat) (before : List Char)
    (f : Frontier) (best : Option Slots) (cs : List Char) (hstart : resetStack start = start)
    (hf : f.Closed (placeAt index before.head? cs))
    (h : best.isSome = true ∨ f.IsLive before cs ∨
      ∃ pre rest, cs = pre ++ rest ∧ CanMatch false start (pre.reverse ++ before) rest) :
  (searchFrom start slots index before.head? f best cs).isSome = true
  := by
  have hmem {seen : List (List Frame)} (h : start ∈ seen) : resetStack start ∈ seen := by
    rwa [hstart]
  induction cs generalizing index before f best with
  | nil =>
      obtain ⟨hsub, hclosed, hopened⟩ := closed_opened start slots index f best hstart hf
      rw [searchFrom_nil, Option.isSome_or, Bool.or_eq_true]
      cases best with
      | some found => exact .inr rfl
      | none =>
          have hlive : (opened start slots index before.head? f none []).IsLive before [] := by
            rcases h with hbest | hlive | ⟨pre, rest, hcs, hcan⟩
            · cases hbest
            · exact hlive.mono hsub
            · obtain ⟨rfl, rfl⟩ := List.append_eq_nil_iff.1 hcs.symm
              exact isLive_of_mem_seen rfl rfl hclosed (hmem (hopened rfl)) hcan
          obtain ⟨t, ht, hstack | ⟨s, below, hstack⟩, hcan⟩ := hlive
          · exact .inl ((isSome_advanceAll_iff _ _ _ _).2 ⟨t, List.mem_reverse.2 ht, hstack⟩)
          · rw [hstack] at hcan
            exact absurd hcan not_canMatch_set_nil
  | cons c rest ih =>
      obtain ⟨hsub, hclosed, hopened⟩ := closed_opened start slots index f best hstart hf
      have hplace : (placeAt (index + 1) (some c) rest).before = (c :: before).head? := rfl
      obtain ⟨-, hnext, hlive⟩ := isLive_advanceAll hplace rfl .empty
        (opened start slots index before.head? f best (c :: rest)).threads.reverse (closed_empty _)
      rw [searchFrom_cons]
      simp only
      split
      · next hended => exact (Bool.and_eq_true_iff.1 hended).2
      · apply ih _ (c :: before) _ _ hnext
        rw [Option.isSome_or, Bool.or_eq_true]
        cases best with
        | some found => exact .inl (.inr rfl)
        | none =>
            have hcases : (opened start slots index before.head? f none (c :: rest)).IsLive before
                (c :: rest) ∨ ∃ pre rest', rest = pre ++ rest' ∧
                  CanMatch false start (pre.reverse ++ (c :: before)) rest' := by
              rcases h with hbest | hlive | ⟨pre, rest', hcs, hcan⟩
              · cases hbest
              · exact .inl (hlive.mono hsub)
              · cases pre with
                | nil =>
                    rw [List.nil_append] at hcs
                    rw [← hcs] at hcan
                    exact .inl (isLive_of_mem_seen rfl rfl hclosed (hmem (hopened rfl)) hcan)
                | cons d pre =>
                    obtain ⟨rfl, rfl⟩ := List.cons.inj hcs
                    rw [List.reverse_cons, List.append_assoc] at hcan
                    exact .inr ⟨pre, rest', rfl, hcan⟩
            rcases hcases with ⟨t, ht, htlive⟩ | hlater
            · rcases hlive t (List.mem_reverse.2 ht) htlive with hfound | hlive'
              · exact .inl (.inl hfound)
              · exact .inr (.inl hlive')
            · exact .inr (.inr hlater)

/-- The stack of a search matches what its expression does. -/
theorem canMatch_startStack_iff {moved : Bool} {e : Expr} :
  CanMatch moved (startStack e) before cs ↔ ∃ w after, cs = w ++ after ∧ Matches e before w after
  := by
  simp only [startStack, CanMatch, and_true]

/-- A search finds a match if and only if there is one. -/
theorem isSome_search_iff (e : Expr) (index : Nat) (before cs : List Char) :
  (search e index before.head? cs).isSome = true ↔
    ∃ pre w after, cs = pre ++ (w ++ after) ∧ Matches e (pre.reverse ++ before) w after
  := by
  constructor
  · intro h
    rcases exists_of_isSome_searchFrom _ _ _ _ _ _ _ h with
      hbest | ⟨t, ht, -⟩ | ⟨pre, rest, rfl, hcan⟩
    · cases hbest
    · cases ht
    · obtain ⟨w, after, rfl, hw⟩ := canMatch_startStack_iff.1 hcan
      exact ⟨pre, w, after, rfl, hw⟩
  · rintro ⟨pre, w, after, rfl, hw⟩
    apply isSome_searchFrom
    · rfl
    · exact closed_empty _
    · right
      right
      exact ⟨pre, w ++ after, rfl, canMatch_startStack_iff.2 ⟨w, after, rfl, hw⟩⟩

/-- An expression has a match in a text if and only if some part of the text is matched between what
stands before and after it. -/
theorem isMatch_iff (e : Expr) (text : String) :
  isMatch e text = true ↔
    ∃ pre w after, text.toList = pre ++ (w ++ after) ∧ Matches e pre.reverse w after
  := by
  have h := isSome_search_iff e 0 [] text.toList
  simp only [List.append_nil] at h
  exact h

/-- An expression between the anchors of both ends has a match in a text if and only if it matches the
whole text. -/
theorem isMatch_anchored_iff {e : Expr} {text : String} :
  isMatch (.cats [.anchor .start, e, .anchor .ending]) text = true ↔ Matches e [] text.toList []
  := by
  rw [isMatch_iff]
  simp only [matches_cats_cons_iff, matches_cats_nil_iff, matches_start_iff, matches_ending_iff]
  constructor
  · rintro ⟨pre, _, after, htext, _, _, rfl, ⟨rfl, hpre⟩, w, _, rfl, he, _, _, rfl, ⟨rfl, hafter⟩, rfl⟩
    obtain rfl := List.reverse_eq_nil_iff.1 hpre
    obtain rfl : after = [] := hafter
    simp only [List.nil_append, List.append_nil] at htext he
    rw [htext]
    exact he
  · intro he
    have hall : text.toList = text.toList ++ [] := (List.append_nil _).symm
    have hrest : Matches e [] text.toList ([] ++ []) := he
    exact ⟨[], text.toList, [], hall, [], text.toList, rfl, ⟨rfl, rfl⟩, text.toList, [], hall, hrest,
      [], [], rfl, ⟨rfl, rfl⟩, rfl⟩

/-! ### Which match is found -/

/-- The threads of a stack come after those that there are. -/
theorem threads_suffix_explore (p : Place) (slots : Slots) (stack : List Frame) (f : Frontier) :
  f.threads <:+ (explore p slots stack f).threads
  := by
  fun_induction explore p slots stack f with
  | case1 slots stack f hseen => exact List.suffix_refl _
  | case2 slots stack f hseen f' hl hu => exact List.suffix_cons _ _
  | case3 slots stack f hseen f' hl hu => exact List.suffix_refl _
  | case4 slots stack f hseen f' hl s hu hlt ih => exact ih
  | case5 slots stack f hseen f' hl i s hu hlt ih => exact ih
  | case6 slots stack f hseen f' hl s t hu hs ht ih _ ih' => exact ih.trans ih'

/-- A search ends with the match of the first thread where that thread has come to its end. -/
theorem search_eq_of_suffix {e : Expr} {index : Nat} {before : Option Char} {cs : List Char}
    {slots : Slots}
    (h : [⟨[], slots⟩] <:+ (explore (placeAt index before cs) (.replicate (2 * e.groupCount) none)
      (startStack e) .empty).threads) :
  search e index before cs = some slots
  := by
  obtain ⟨others, hothers⟩ := h
  have hthreads : (opened (startStack e) (.replicate (2 * e.groupCount) none) index before .empty none
      cs).threads.reverse = ⟨[], slots⟩ :: others.reverse := by
    rw [opened, if_pos Option.isNone_none, ← hothers, List.reverse_append]
    rfl
  cases cs with
  | nil =>
      rw [search, searchFrom_nil, hthreads]
      rfl
  | cons c rest =>
      rw [search, searchFrom_cons, hthreads]
      rfl

/-- What unfolding a stack that has not been unfolded yet comes to. -/
theorem explore_of_not_mem {p : Place} {stack : List Frame} {f : Frontier}
    (hseen : resetStack stack ∉ f.seen) (slots : Slots) :
  explore p slots stack f =
    match unfold p stack with
    | .ready => ⟨⟨stack, slots⟩ :: f.threads, resetStack stack :: f.seen⟩
    | .dead => ⟨f.threads, resetStack stack :: f.seen⟩
    | .one s => explore p slots s ⟨f.threads, resetStack stack :: f.seen⟩
    | .record i s =>
        explore p (slots.setIfInBounds i (some p.index)) s ⟨f.threads, resetStack stack :: f.seen⟩
    | .two s t => explore p slots t (explore p slots s ⟨f.threads, resetStack stack :: f.seen⟩)
  := by
  rw [explore, if_neg (mt List.contains_iff_mem.1 hseen)]
  split <;> next hu => simp only [hu]

/-- A round that has matched nothing is not followed by another one at its place: where a repetition
prefers an empty round, the first match is empty, whatever the other rounds match. -/
theorem search_repeated_empty_alt (greedy : Bool) (e : Expr) (index : Nat)
    (before : Option Char) (cs : List Char) :
  search (.repeated 1 none greedy (.alt .empty e)) index before cs =
    some (((Array.replicate (2 * Nat.max 1 e.groupCount) none).setIfInBounds 0
      (some index)).setIfInBounds 1 (some index))
  := by
  have hsteps (slots : Slots) := calc
    explore (placeAt index before cs) slots (startStack (.repeated 1 none greedy (.alt .empty e))) .empty
      = explore (placeAt index before cs) (slots.setIfInBounds 0 (some index))
          [.expr (.repeated 1 none greedy (.alt .empty e)), .slot 1] _
        := explore_of_not_mem List.not_mem_nil slots
    _ = explore (placeAt index before cs) (slots.setIfInBounds 0 (some index))
          [.expr (.alt .empty e), .loop greedy true (.alt .empty e), .slot 1] _
        := explore_of_not_mem (by simp [Frontier.empty, resetStack, startStack, Frame.reset]) _
    _ = explore (placeAt index before cs) (slots.setIfInBounds 0 (some index))
          [.expr e, .loop greedy true (.alt .empty e), .slot 1]
          (explore (placeAt index before cs) (slots.setIfInBounds 0 (some index))
            [.expr .empty, .loop greedy true (.alt .empty e), .slot 1] _)
        := explore_of_not_mem (by simp [Frontier.empty, resetStack, startStack, Frame.reset]) _
  apply search_eq_of_suffix
  rw [hsteps]
  -- the other round only adds to the threads that the empty one leads to
  refine List.IsSuffix.trans ?_ (threads_suffix_explore _ _ _ _)
  simp [explore, unfold, resetStack, startStack, Frame.reset, Frontier.empty, placeAt,
    Expr.groupCount]

end PageModel.Regex
