import PageModel.Proofs.Pipeline.Scheduling

/-!
# Cancelling a run

A run that is cancelled while one of its reports is made starts no further task, and finishes those
that it has started. How many these are is known in advance: as long as the run is not cancelled, it
starts the URLs that there is room for and one more after each report about a URL, while there are any
(`CancelledDuring.pending_refill`). A run that is cancelled during the `j`th report about a URL has
therefore started `j - 1` URLs beside those that there was room for at first (`Paced.pending`).
-/

namespace PageModel.Pipeline

variable {ρ : Type} {p : Pool ρ} {σ : Schedule ρ} {urls : List String} {j : Nat}

/-- The relation of a run with the number of the report during which it is cancelled first. The
report of the start has the number 0, and those about URLs are counted from 1. -/
def CancelledDuring (p : Pool ρ) (σ : Schedule ρ) (urls : List String) (j : Nat) : Prop :=
  ∀ s, Reached p σ urls s → (σ.cancels s = true ↔ j < s.events.length)

/-! ### Steps -/

theorem events_refill (limit : Nat) (s : State ρ) :
  (s.refill limit σ).events = s.events
  := by
  fun_induction State.refill limit σ s with
  | case1 => rfl
  | case2 => rfl
  | case3 s _ s' _ url pending hp _ ih => apply ih
  | case4 => rfl

/-- A state in which a task has ended. -/
theorem Reached.join_parts {s : State ρ} (hs : Reached p σ urls s) {t : Task} (ht : t ∈ s.running) :
  (s.join p t).events.length = s.events.length + 1 ∧ (s.join p t).pending = s.pending ∧
    (s.join p t).cancelled = s.cancelled ∧ (s.join p t).running.length + 1 = s.running.length
  := by
  obtain ⟨done, hbooks⟩ := hs.books
  obtain ⟨before, after, hsplit⟩ := List.append_of_mem ht
  rw [join_eq hs hbooks ht]
  refine ⟨?_, rfl, rfl, ?_⟩
  · simp
  · change (s.remove t.id).running.length + 1 = _
    rw [hs.tracked.remove_running hsplit, hsplit]
    simp
    omega

/-- Every URL is pending, worked on, or has been reported. -/
theorem Reached.length_events {s : State ρ} (hs : Reached p σ urls s) :
  s.events.length + s.running.length + s.pending.length = urls.length + 1
  := by
  obtain ⟨done, hbooks⟩ := hs.books
  obtain ⟨started, hstarted, hperm⟩ := hbooks.shares
  have hlength := hperm.length_eq
  rw [← hstarted, hbooks.events]
  simp only [List.length_append, List.length_map, List.length_cons] at hlength ⊢
  omega

/-- The start has been reported. -/
theorem Reached.events_pos {s : State ρ} (hs : Reached p σ urls s) :
  0 < s.events.length
  := by
  obtain ⟨done, hbooks⟩ := hs.books
  rw [hbooks.events]
  apply Nat.succ_pos

/-- No more tasks are running than there is room for. -/
theorem Reached.running_le {s : State ρ} (hs : Reached p σ urls s) :
  s.running.length ≤ p.limit
  := by
  induction hs with
  | initial => exact Nat.zero_le _
  | observe _ _ ih => exact ih
  | spawn _ room _ _ _ =>
      simp only [State.spawn, List.length_append, List.length_cons, List.length_nil]
      omega
  | join hs ht ih =>
      have := (hs.join_parts ht).2.2.2
      omega

/-! ### Starting tasks -/

theorem CancelledDuring.cancels_eq_false (h : CancelledDuring p σ urls j) {s : State ρ}
    (hs : Reached p σ urls s) (hj : s.events.length ≤ j) :
  σ.cancels s = false
  := by
  apply Bool.eq_false_iff.2
  intro hc
  have := (h s hs).1 hc
  omega

/-- A run that has not been cancelled by the time of a report has not been when tasks have been
started after it. -/
theorem CancelledDuring.cancelled_refill (h : CancelledDuring p σ urls j) {s : State ρ}
    (hs : Reached p σ urls s) (live : s.cancelled = false) (hj : s.events.length ≤ j) :
  (s.refill p.limit σ).cancelled = false
  := by
  have observed {s : State ρ} (hs : Reached p σ urls s) (live : s.cancelled = false)
      (hj : s.events.length ≤ j) : (s.observe (σ.cancels s)).cancelled = false := by
    simp only [State.observe, live, h.cancels_eq_false hs hj, Bool.or_self]
  fun_induction State.refill p.limit σ s with
  | case1 s room s' hc => apply observed hs live hj
  | case2 s room s' hc hp => apply observed hs live hj
  | case3 s room s' hc url pending hp hlt ih =>
      have live' := observed hs live hj
      apply ih _ live' hj
      apply Reached.spawn (.observe hs room) room live' hp
  | case4 s room => exact live

/-- As long as a run is not cancelled, tasks are started until there is no room or no URL left. So
the URLs that are not pending are those that there was room for at first and one more for each that has
been reported. -/
theorem CancelledDuring.pending_refill (h : CancelledDuring p σ urls j) {s : State ρ}
    (hs : Reached p σ urls s) (live : s.cancelled = false) (hj : s.events.length ≤ j) :
  (s.refill p.limit σ).pending.length = urls.length + 1 - (s.events.length + p.limit)
  := by
  have hlength := (reached_refill hs).length_events
  have hle := (reached_refill hs).running_le
  rw [events_refill] at hlength
  rcases Nat.lt_or_eq_of_le hle with room | hfull
  · have hnone : (s.refill p.limit σ).pending = [] := by
      rcases Pipeline.pending_refill p.limit s room with hc | hnone
      · rw [h.cancelled_refill hs live hj] at hc
        cases hc
      · exact hnone
    rw [hnone, List.length_nil] at hlength ⊢
    omega
  · omega

/-- Once a run is cancelled, no task is started. -/
theorem CancelledDuring.refill_eq (h : CancelledDuring p σ urls j) {s : State ρ}
    (hs : Reached p σ urls s) (room : s.running.length < p.limit) (hj : j < s.events.length) :
  s.refill p.limit σ = s.observe true
  := by
  have hc : σ.cancels s = true := (h s hs).2 hj
  rw [State.refill, if_pos room, hc]
  simp only [State.observe, Bool.or_true, if_true]

/-! ### The number of URLs that are started -/

/-- The number of URLs that are started, if there are as many, when a run is cancelled during a
report: none at the report of the start; at the first report about a URL those that there is room
for, and one more at each further one. -/
def Pool.allowance (p : Pool ρ) : Nat → Nat
  | 0 => 0
  | j + 1 => p.limit + j

/-- The states in which a run is between a report and the start of tasks: cancelling has not been
noticed before it happens, and after it the URLs that are allowed have been started. -/
structure Paced (p : Pool ρ) (urls : List String) (j : Nat) (s : State ρ) : Prop where
  room : s.running.length < p.limit
  live : s.events.length ≤ j → s.cancelled = false
  pending : j < s.events.length → s.pending.length = urls.length - p.allowance j

theorem paced_initial (p : Pool ρ) (urls : List String) (j : Nat) :
  Paced p urls j (.initial p.model urls)
  where
  room := limit_pos p
  live _ := rfl
  pending hj := by
    obtain rfl : j = 0 := Nat.lt_one_iff.1 hj
    rfl

/-- A run that starts tasks and then makes the next report is still at its pace. -/
theorem Paced.join {s : State ρ} (hp : Paced p urls j s) (h : CancelledDuring p σ urls j)
    (hs : Reached p σ urls s) {t : Task} (ht : t ∈ (s.refill p.limit σ).running) :
  Paced p urls j ((s.refill p.limit σ).join p t)
  := by
  have hs' := reached_refill hs
  obtain ⟨hevents, hpending, hcancelled, hrunning⟩ := hs'.join_parts ht
  have hle := hs'.running_le
  rw [events_refill] at hevents
  constructor
  · omega
  · intro hj
    rw [hcancelled]
    apply h.cancelled_refill hs (hp.live (by omega)) (by omega)
  · intro hj
    rw [hpending]
    rcases Nat.lt_or_ge j s.events.length with hlate | hearly
    · rw [h.refill_eq hs hp.room hlate]
      apply hp.pending hlate
    · -- The report just made is the one during which the run is cancelled: until then it was live.
      have hstart := hs.events_pos
      obtain ⟨i, rfl⟩ : ∃ i, j = i + 1 := Nat.exists_eq_add_one.2 (by omega)
      rw [h.pending_refill hs (hp.live hearly) hearly, Pool.allowance]
      omega

/-- A run that is cancelled during a report starts the URLs that are allowed then. -/
theorem pending_loop_of_paced (h : CancelledDuring p σ urls j) {s : State ρ}
    (hs : Reached p σ urls s) (hp : Paced p urls j s) :
  (s.loop p σ).pending.length = urls.length - p.allowance j
  := by
  fun_induction State.loop p σ s with
  | case1 s s' hnext =>
      have hnone : (s.refill p.limit σ).running = [] := nextTask?_eq_none hnext
      change (s.refill p.limit σ).pending.length = _
      rcases Nat.lt_or_ge j s.events.length with hlate | hearly
      · rw [h.refill_eq hs hp.room hlate]
        apply hp.pending hlate
      · -- All URLs have been reported before the run is cancelled.
        have hlength := (reached_refill hs).length_events
        have hpending := h.pending_refill hs (hp.live hearly) hearly
        have hstart := hs.events_pos
        have hlimit := limit_pos p
        rw [events_refill, hnone, List.length_nil] at hlength
        obtain ⟨i, rfl⟩ : ∃ i, j = i + 1 := Nat.exists_eq_add_one.2 (by omega)
        rw [Pool.allowance]
        omega
  | case2 s s' t hnext hlt ih =>
      apply ih
      · apply Reached.join (reached_refill hs) (State.mem_of_nextTask? hnext)
      · apply hp.join h hs (State.mem_of_nextTask? hnext)

/-- A run that is cancelled first while the `j`th of the reports about URLs is made, or before them if
`j` is 0, starts the first `min n (c + j - 1)` of `n` URLs, where `c` tasks may run at a time, or none
if `j` is 0. These are worked on to the end: each has one account, with one report and one place in the
counters, and what an account says is what its task came to. Then the end is reported, and no task is
left. -/
theorem Pool.run_cancelledDuring (p : Pool ρ) (σ : Schedule ρ) (urls : List String) (j : Nat)
    (h : CancelledDuring p σ urls j) :
  ∃ done : List (Account ρ),
    (done.map (·.url)).Perm
      (urls.take (if j = 0 then 0 else min urls.length (max p.concurrency 1 + j - 1))) ∧
    (∀ a ∈ done, ∃ s t, Reached p σ urls s ∧ t ∈ s.running ∧ a = t.account p s) ∧
    (p.run σ urls).events
      = .started p.model urls.length
        :: (done.map Account.event ++ [.finished (p.run σ urls).stats]) ∧
    (p.run σ urls).stats = tally (done.map Account.event) ∧
    (p.run σ urls).stats.total
      = (if j = 0 then 0 else min urls.length (max p.concurrency 1 + j - 1)) ∧
    (p.run σ urls).records = done.filterMap Account.record? ∧
    (p.run σ urls).running = []
  := by
  have hreached := reached_end p σ urls
  obtain ⟨done, hbooks⟩ := hreached.books
  have hallowance : min urls.length (p.allowance j)
      = if j = 0 then 0 else min urls.length (max p.concurrency 1 + j - 1) := by
    cases j with
    | zero => simp [Pool.allowance]
    | succ i => simp [Pool.allowance, Pool.limit]
  have hpending := pending_loop_of_paced h .initial (paced_initial p urls j)
  obtain ⟨started, hstarted, hperm⟩ := hbooks.shares
  have hlength : started.length = min urls.length (p.allowance j) := by
    have := congrArg List.length hstarted
    rw [List.length_append, hpending] at this
    omega
  have htake : started = urls.take (min urls.length (p.allowance j)) := by
    rw [← hlength, ← hstarted, List.take_left]
  rw [running_loop, List.map_nil, List.append_nil] at hperm
  rw [← hallowance]
  refine ⟨done, ?_, hbooks.source, hbooks.events_run, hbooks.stats_run, ?_, hbooks.records, ?_⟩
  · rw [← htake]
    exact hperm
  · rw [hbooks.stats_run, total_tally, ← hlength, ← hperm.length_eq, List.length_map]
  · apply running_loop

/-- A schedule without cancelling that is cancelled after a number of events instead. -/
theorem cancelledDuring_cancelledAfter (hσ : ∀ s, σ.cancels s = false) (p : Pool ρ)
    (urls : List String) (j : Nat) :
  CancelledDuring p (σ.cancelledAfter (j + 1)) urls j
  := by
  intro s _
  simp only [Schedule.cancelledAfter, hσ, Bool.false_or, decide_eq_true_eq]
  exact Nat.succ_le_iff

/-- Two tasks at a time, one of which crashes, and cancelling during the second report: three of five
URLs are worked on. -/
theorem lastFirst_cancelledAfter :
  CancelledDuring (.ofFetch anyPage (crashAt "b") 2) (Schedule.lastFirst.cancelledAfter 3)
      ["a", "b", "a", "b", "a"] 2 ∧
    ((Pool.ofFetch anyPage (crashAt "b") 2).run (Schedule.lastFirst.cancelledAfter 3)
      ["a", "b", "a", "b", "a"]).stats.total = 3
  := by
  have h := cancelledDuring_cancelledAfter (σ := Schedule.lastFirst) (fun _ => rfl)
    (.ofFetch anyPage (crashAt "b") 2) ["a", "b", "a", "b", "a"] 2
  obtain ⟨_, -, -, -, -, htotal, -, -⟩ := Pool.run_cancelledDuring _ _ _ _ h
  exact ⟨h, htotal⟩

end PageModel.Pipeline
