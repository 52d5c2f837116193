import Mathlib.Data.List.Nodup
import PageModel.Pipeline.Run

/-!
# The states of a run

A run passes through the states that are reached from the first one by asking whether the run is
cancelled, by starting a task while there is room, and by ending one of the running tasks. The loop
of a run stops in such a state, with no task running, and with no URL left unless cancelling has
been noticed (`reached_loop`, `running_loop`, `pending_loop`). In every state of a run the tasks
have numbers of their own and the URL of each is found by its number (`Reached.tracked`).
-/

namespace PageModel.Pipeline

variable {ρ : Type} {p : Pool ρ} {σ : Schedule ρ} {urls : List String}

/-- The states that a run passes through. -/
inductive Reached (p : Pool ρ) (σ : Schedule ρ) (urls : List String) : State ρ → Prop where
  | initial : Reached p σ urls (.initial p.model urls)
  | observe {s : State ρ} (hs : Reached p σ urls s) (room : s.running.length < p.limit) :
      Reached p σ urls (s.observe (σ.cancels s))
  | spawn {s : State ρ} {url : String} {pending : List String} (hs : Reached p σ urls s)
      (room : s.running.length < p.limit) (live : s.cancelled = false)
      (hp : s.pending = url :: pending) :
      Reached p σ urls (s.spawn (σ.number s) url pending)
  | join {s : State ρ} {t : Task} (hs : Reached p σ urls s) (ht : t ∈ s.running) :
      Reached p σ urls (s.join p t)

/-! ### The loop passes through reached states -/

theorem reached_refill {s : State ρ} (hs : Reached p σ urls s) :
  Reached p σ urls (s.refill p.limit σ)
  := by
  fun_induction State.refill p.limit σ s with
  | case1 s room s' hc => exact .observe hs room
  | case2 s room s' hc hp => exact .observe hs room
  | case3 s room s' hc url pending hp hlt ih =>
      apply ih
      apply Reached.spawn (.observe hs room) room _ hp
      simpa using hc
  | case4 s room => exact hs

theorem reached_loop {s : State ρ} (hs : Reached p σ urls s) :
  Reached p σ urls (s.loop p σ)
  := by
  fun_induction State.loop p σ s with
  | case1 s s' h => exact reached_refill hs
  | case2 s s' t h hlt ih =>
      apply ih
      exact .join (reached_refill hs) (State.mem_of_nextTask? h)

/-- Tasks are started until there is no room, no URL left, or cancelling is noticed. -/
theorem pending_refill (limit : Nat) (s : State ρ)
    (room : (s.refill limit σ).running.length < limit) :
  (s.refill limit σ).cancelled = true ∨ (s.refill limit σ).pending = []
  := by
  fun_induction State.refill limit σ s with
  | case1 s _ s' hc => exact .inl hc
  | case2 s _ s' hc hp => exact .inr hp
  | case3 s _ s' hc url pending hp hlt ih => exact ih room
  | case4 s full => exact absurd room full

/-- Some task ends next as long as any is running. -/
theorem nextTask?_eq_none {next : State ρ → Nat} {s : State ρ} (h : s.nextTask? next = none) :
  s.running = []
  := by
  rw [State.nextTask?, List.getElem?_eq_none_iff] at h
  rcases Nat.eq_zero_or_pos s.running.length with h0 | hpos
  · exact List.length_eq_zero_iff.1 h0
  · have := Nat.mod_lt (next s) hpos
    omega

/-- No task is running at the end. -/
theorem running_loop (s : State ρ) :
  (s.loop p σ).running = []
  := by
  fun_induction State.loop p σ s with
  | case1 s s' h => exact nextTask?_eq_none h
  | case2 s s' t h hlt ih => exact ih

theorem limit_pos (p : Pool ρ) :
  0 < p.limit
  := by
  unfold Pool.limit
  omega

/-- At the end no URL is left, unless cancelling has been noticed. -/
theorem pending_loop (s : State ρ) :
  (s.loop p σ).cancelled = true ∨ (s.loop p σ).pending = []
  := by
  fun_induction State.loop p σ s with
  | case1 s s' h =>
      apply pending_refill
      have : s'.running = [] := nextTask?_eq_none h
      rw [this]
      exact limit_pos p
  | case2 s s' t h hlt ih => exact ih

/-! ### What the end of a task leaves -/

theorem State.settle_parts (s : State ρ) (url : String) (o : Outcome ρ) :
  (s.settle url o).pending = s.pending ∧ (s.settle url o).cancelled = s.cancelled ∧
    (s.settle url o).running = s.running ∧ (s.settle url o).inFlight = s.inFlight
  := by
  cases o <;> exact ⟨rfl, rfl, rfl, rfl⟩

/-- When a task ends it is removed; the pending URLs and what is known of cancelling are left. -/
theorem State.join_parts (p : Pool ρ) (s : State ρ) (t : Task) :
  (s.join p t).pending = s.pending ∧ (s.join p t).cancelled = s.cancelled ∧
    (s.join p t).running = (s.remove t.id).running ∧
    (s.join p t).inFlight = (s.remove t.id).inFlight
  := by
  unfold State.join
  simp only
  split
  · apply State.settle_parts
  · apply State.settle_parts

/-! ### Cancelling -/

/-- Cancelling is noticed only if the run is cancelled at some time. -/
theorem Reached.cancelled_eq_false {s : State ρ} (hs : Reached p σ urls s)
    (h : ∀ s, σ.cancels s = false) :
  s.cancelled = false
  := by
  induction hs with
  | initial => rfl
  | observe _ _ ih => simp [State.observe, ih, h]
  | spawn _ _ _ _ ih => exact ih
  | @join s t _ _ ih =>
      rw [(s.join_parts p t).2.1]
      exact ih

/-! ### Tasks by number -/

/-- The tasks have numbers of their own, and the URLs by number are those of the running tasks, the
last one first. -/
structure State.Tracked (s : State ρ) : Prop where
  distinct : (s.running.map (·.id)).Nodup
  inFlight : s.inFlight = (s.running.map fun t => (t.id, t.url)).reverse

/-- Removing a task removes it alone. -/
theorem State.Tracked.remove_running {s : State ρ} (h : s.Tracked) {t : Task}
    {before after : List Task} (hr : s.running = before ++ t :: after) :
  (s.remove t.id).running = before ++ after
  := by
  have hd := h.distinct
  rw [hr, List.map_append, List.map_cons, List.nodup_middle, List.nodup_cons] at hd
  have hne : ∀ u ∈ before ++ after, u.id ≠ t.id := by
    intro u hu he
    apply hd.1
    rw [← he, ← List.map_append]
    exact List.mem_map_of_mem hu
  simp only [State.remove, hr, List.filter_append, List.filter_cons, ne_eq, not_true_eq_false,
    decide_false, Bool.false_eq_true, if_false]
  rw [← List.filter_append, List.filter_eq_self]
  intro u hu
  exact decide_eq_true (hne u hu)

theorem State.Tracked.remove {s : State ρ} (h : s.Tracked) (id : Nat) :
  (s.remove id).Tracked
  where
  distinct := h.distinct.sublist (List.filter_sublist.map _)
  inFlight := by
    simp only [State.remove, h.inFlight, List.filter_reverse, List.filter_map]
    rfl

/-- The URL of a running task is there under its number. -/
theorem State.Tracked.lookup_inFlight {s : State ρ} (h : s.Tracked) {t : Task}
    (ht : t ∈ s.running) :
  s.inFlight.lookup t.id = some t.url
  := by
  have hkeys : (s.inFlight.map (·.1)).Nodup := by
    rw [h.inFlight, List.map_reverse, List.nodup_reverse, List.map_map]
    exact h.distinct
  have hmem : (t.id, t.url) ∈ s.inFlight := by
    rw [h.inFlight, List.mem_reverse]
    exact List.mem_map_of_mem ht
  obtain ⟨before, after, hsplit⟩ := List.append_of_mem hmem
  rw [List.lookup_eq_some_iff]
  use before, after, hsplit
  intro q hq
  rw [hsplit, List.map_append, List.map_cons, List.nodup_middle, List.nodup_cons] at hkeys
  apply bne_iff_ne.2
  intro he
  have hmem' : q.1 ∈ before.map (·.1) := List.mem_map_of_mem hq
  rw [← he] at hmem'
  exact hkeys.1 (List.mem_append_left _ hmem')

/-- The URL of a running task is found by its number. -/
theorem State.Tracked.urlOf {s : State ρ} (h : s.Tracked) {t : Task} (ht : t ∈ s.running) :
  s.urlOf t.id = t.url
  := by
  rw [State.urlOf, h.lookup_inFlight ht]
  rfl

/-- In every state of a run the URL of a task can be told from its number. -/
theorem Reached.tracked {s : State ρ} (hs : Reached p σ urls s) :
  s.Tracked
  := by
  induction hs with
  | initial => exact ⟨List.nodup_nil, rfl⟩
  | observe _ _ ih => exact ⟨ih.distinct, ih.inFlight⟩
  | @spawn s url pending _ _ _ _ ih =>
      constructor
      · simp only [State.spawn, List.map_append, List.map_cons, List.map_nil]
        apply List.nodup_append.2
        refine ⟨ih.distinct, List.nodup_singleton _, ?_⟩
        intro i hi j hj
        obtain ⟨t, ht, rfl⟩ := List.mem_map.1 hi
        rw [List.mem_singleton.1 hj]
        exact σ.number_unused s t ht
      · simp [State.spawn, ih.inFlight]
  | @join s t _ _ ih =>
      obtain ⟨-, -, hrunning, hinFlight⟩ := s.join_parts p t
      constructor
      · rw [hrunning]
        exact (ih.remove t.id).distinct
      · rw [hrunning, hinFlight]
        exact (ih.remove t.id).inFlight

end PageModel.Pipeline
