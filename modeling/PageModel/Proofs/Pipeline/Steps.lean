import Mathlib.Logic.Relation
import PageModel.Proofs.Pipeline.Cancelling

/-!
# A run step by step

A run goes from point to point: it looks whether one more task may be started, starts it, and when
none may be started waits for one of those that are running to end (`Step`). Which of them ends is
left open here. The loop of a run is one way through these points (`leads_loop`), and the states at
all of them are states that a run reaches (`isReached_of_leads`). What holds at every point is
therefore true of a run at any time: no more tasks are running than there is room for, each is found
with its URL under its number, and none is started once a look has found the run cancelled.
-/

namespace PageModel.Pipeline

variable {ρ : Type} {p : Pool ρ} {σ : Schedule ρ} {urls : List String}

/-! ### Points and steps -/

/-- A point of a run, with the state there: it is to be seen whether a task may be started; one may be
started; the end of a task is waited for; or the run is over. -/
inductive Point (ρ : Type) where
  | filling (s : State ρ)
  | cleared (s : State ρ)
  | waiting (s : State ρ)
  | ended (s : State ρ)

/-- The state at a point. -/
def Point.state : Point ρ → State ρ
  | .filling s => s
  | .cleared s => s
  | .waiting s => s
  | .ended s => s

/-- The point at which a run starts. -/
def startPoint (p : Pool ρ) (urls : List String) : Point ρ :=
  .filling (.initial p.model urls)

/-- The relation of a point with those that may come next. Whether a run is cancelled is asked only if
there is room. -/
inductive Step (p : Pool ρ) (σ : Schedule ρ) : Point ρ → Point ρ → Prop
  | full {s : State ρ} (hfull : ¬ s.running.length < p.limit) :
      Step p σ (.filling s) (.waiting s)
  | refuse {s : State ρ} (room : s.running.length < p.limit)
      (hc : (s.observe (σ.cancels s)).cancelled = true) :
      Step p σ (.filling s) (.waiting (s.observe (σ.cancels s)))
  | clear {s : State ρ} (room : s.running.length < p.limit)
      (hc : (s.observe (σ.cancels s)).cancelled = false) :
      Step p σ (.filling s) (.cleared (s.observe (σ.cancels s)))
  | exhaust {s : State ρ} (hp : s.pending = []) :
      Step p σ (.cleared s) (.waiting s)
  | spawn {s : State ρ} {url : String} {pending : List String} (hp : s.pending = url :: pending) :
      Step p σ (.cleared s) (.filling (s.spawn (σ.number s) url pending))
  | join {s : State ρ} {t : Task} (ht : t ∈ s.running) :
      Step p σ (.waiting s) (.filling (s.join p t))
  | stop {s : State ρ} (hr : s.running = []) :
      Step p σ (.waiting s) (.ended s)

/-- The relation of a point with those that may come after it. -/
abbrev Leads (p : Pool ρ) (σ : Schedule ρ) : Point ρ → Point ρ → Prop :=
  Relation.ReflTransGen (Step p σ)

/-! ### The loop goes step by step -/

theorem leads_refill (s : State ρ) :
  Leads p σ (.filling s) (.waiting (s.refill p.limit σ))
  := by
  fun_induction State.refill p.limit σ s with
  | case1 s room s' hc => exact .single (.refuse room hc)
  | case2 s room s' hc hp =>
      have hlive : s'.cancelled = false := Bool.eq_false_iff.2 hc
      exact .tail (.single (.clear room hlive)) (.exhaust hp)
  | case3 s room s' hc url pending hp hlt ih =>
      have hlive : s'.cancelled = false := Bool.eq_false_iff.2 hc
      exact .trans (.tail (.single (.clear room hlive)) (.spawn hp)) ih
  | case4 s hfull => exact .single (.full hfull)

/-- The loop of a run goes from the point where tasks are to be started to the one where the run is
over. -/
theorem leads_loop (s : State ρ) :
  Leads p σ (.filling s) (.ended (s.loop p σ))
  := by
  fun_induction State.loop p σ s with
  | case1 s s' h =>
      apply Relation.ReflTransGen.tail (leads_refill s)
      apply Step.stop (nextTask?_eq_none h)
  | case2 s s' t h hlt ih =>
      apply Relation.ReflTransGen.trans (Relation.ReflTransGen.tail (leads_refill s) _) ih
      apply Step.join (State.mem_of_nextTask? h)

/-! ### States at points -/

/-- The relation of a run with the points whose state it reaches; where a task may be started there is
room and the run is not cancelled. -/
def Point.IsReached (p : Pool ρ) (σ : Schedule ρ) (urls : List String) : Point ρ → Prop
  | .cleared s => Reached p σ urls s ∧ s.running.length < p.limit ∧ s.cancelled = false
  | c => Reached p σ urls c.state

theorem Point.IsReached.state {c : Point ρ} (h : c.IsReached p σ urls) :
  Reached p σ urls c.state
  := by
  cases c with
  | filling s => exact h
  | cleared s => exact h.1
  | waiting s => exact h
  | ended s => exact h

theorem Step.isReached {c c' : Point ρ} (h : Step p σ c c') (hc : c.IsReached p σ urls) :
  c'.IsReached p σ urls
  := by
  cases h with
  | full _ => exact hc
  | refuse room _ => exact Reached.observe hc room
  | clear room hlive => exact ⟨.observe hc room, room, hlive⟩
  | exhaust _ => exact hc.1
  | spawn hp =>
      obtain ⟨hs, room, live⟩ := hc
      exact Reached.spawn hs room live hp
  | join ht => exact Reached.join hc ht
  | stop _ => exact hc

theorem isReached_of_leads {c : Point ρ} (h : Leads p σ (startPoint p urls) c) :
  c.IsReached p σ urls
  := by
  induction h with
  | refl => exact Reached.initial
  | tail _ hstep ih => exact hstep.isReached ih

/-- Where a run waits for the end of a task, as many are running as there may be, unless cancelling has
been noticed or no URL is left to start. -/
theorem full_of_leads {s : State ρ} (h : Leads p σ (startPoint p urls) (.waiting s)) :
  s.cancelled = true ∨ s.pending = [] ∨ s.running.length = p.limit
  := by
  rcases Relation.ReflTransGen.cases_tail h with hstart | ⟨c, hc, hstep⟩
  · cases hstart
  · cases hstep with
    | full hfull =>
        have hle := (isReached_of_leads hc).state.running_le
        exact .inr (.inr (Nat.le_antisymm hle (Nat.le_of_not_lt hfull)))
    | refuse _ hcancelled => exact .inl hcancelled
    | exhaust hnone => exact .inr (.inl hnone)

/-! ### Cancelling is final -/

/-- Whether cancelling has been noticed, and no task is about to be started. -/
def Point.Closed : Point ρ → Prop
  | .cleared _ => False
  | c => c.state.cancelled = true

/-- From a point where cancelling has been noticed tasks end, and nothing else happens. -/
theorem Step.closed {c c' : Point ρ} (h : Step p σ c c') (hc : c.Closed) :
  c'.Closed ∧ c'.state.pending = c.state.pending ∧
    c'.state.running.Sublist c.state.running
  := by
  cases h with
  | full _ => exact ⟨hc, rfl, .refl _⟩
  | refuse _ hrefused => exact ⟨hrefused, rfl, .refl _⟩
  | @clear s _ hlive =>
      have hcancelled : s.cancelled = true := hc
      simp [State.observe, hcancelled] at hlive
  | exhaust _ => exact hc.elim
  | spawn _ => exact hc.elim
  | @join s t ht =>
      obtain ⟨hpending, hcancelled, hrunning, -⟩ := s.join_parts p t
      refine ⟨hcancelled.trans hc, hpending, ?_⟩
      rw [Point.state, Point.state, hrunning]
      exact List.filter_sublist
  | stop _ => exact ⟨hc, rfl, .refl _⟩

theorem closed_of_leads {c c' : Point ρ} (h : Leads p σ c c') (hc : c.Closed) :
  c'.Closed ∧ c'.state.pending = c.state.pending ∧
    c'.state.running.Sublist c.state.running
  := by
  induction h with
  | refl => exact ⟨hc, rfl, .refl _⟩
  | tail _ hstep ih =>
      obtain ⟨hclosed, hpending, hrunning⟩ := ih
      obtain ⟨hclosed', hpending', hrunning'⟩ := hstep.closed hclosed
      exact ⟨hclosed', hpending'.trans hpending, hrunning'.trans hrunning⟩

/-- When a look finds the run cancelled, no task is started after it. -/
theorem quiet_of_cancels {s : State ρ} (room : s.running.length < p.limit)
    (hc : σ.cancels s = true) {c : Point ρ} (h : Leads p σ (.filling s) c) :
  c.state.pending = s.pending ∧ c.state.running.Sublist s.running
  := by
  have hseen : (s.observe (σ.cancels s)).cancelled = true := by
    rw [hc]
    exact Bool.or_true _
  rcases Relation.ReflTransGen.cases_head h with rfl | ⟨c', hstep, hrest⟩
  · exact ⟨rfl, .refl _⟩
  · cases hstep with
    | full hfull => exact absurd room hfull
    | refuse _ _ => exact (closed_of_leads hrest hseen).2
    | clear _ hlive => exact absurd (hseen.symm.trans hlive) Bool.noConfusion

/-! ### Where tasks come from -/

/-- The relation of a point with the tasks that were started on the way to it: each for the URL that
came first among the pending ones then, under the number that the schedule gave. -/
def StartedBefore (p : Pool ρ) (σ : Schedule ρ) (urls : List String) (c : Point ρ) (t : Task) :
    Prop :=
  ∃ s pending, Leads p σ (startPoint p urls) (.cleared s) ∧ s.pending = t.url :: pending ∧
    σ.number s = t.id ∧ Leads p σ (.filling (s.spawn t.id t.url pending)) c

theorem StartedBefore.step {c c' : Point ρ} {t : Task} (h : StartedBefore p σ urls c t)
    (hstep : Step p σ c c') :
  StartedBefore p σ urls c' t
  := by
  obtain ⟨s, pending, hbefore, hp, hnumber, hafter⟩ := h
  exact ⟨s, pending, hbefore, hp, hnumber, hafter.tail hstep⟩

theorem startedBefore_of_leads {c : Point ρ} (h : Leads p σ (startPoint p urls) c) :
  ∀ t ∈ c.state.running, StartedBefore p σ urls c t
  := by
  induction h with
  | refl =>
      intro t ht
      cases ht
  | @tail c c' hbefore hstep ih =>
      intro t ht
      cases hstep with
      | full hfull => exact (ih t ht).step (.full hfull)
      | refuse room hc => exact (ih t ht).step (.refuse room hc)
      | clear room hc => exact (ih t ht).step (.clear room hc)
      | exhaust hp => exact (ih t ht).step (.exhaust hp)
      | @spawn s url pending hp =>
          rcases List.mem_append.1 ht with hold | hnew
          · exact (ih t hold).step (.spawn hp)
          · rw [List.mem_singleton] at hnew
            subst hnew
            exact ⟨s, pending, hbefore, hp, rfl, .refl⟩
      | @join s u hu =>
          rw [Point.state, (s.join_parts p u).2.2.1] at ht
          exact (ih t (List.mem_of_mem_filter ht)).step (.join hu)
      | stop hr => exact (ih t ht).step (.stop hr)

/-! ### Crashes -/

/-- A task that crashes is found by its number, and reported with its own URL. -/
theorem Reached.events_of_crash {s : State ρ} (hs : Reached p σ urls s) {t : Task}
    (ht : t ∈ s.running) {text : String} (hcrash : (p.perform s t).ending = .crashed text) :
  s.inFlight.lookup t.id = some t.url ∧
    (s.join p t).events = s.events ++ [.failed t.url (.record (.crashed text))]
  := by
  have hurl := hs.tracked.urlOf ht
  refine ⟨hs.tracked.lookup_inFlight ht, ?_⟩
  simp only [State.join, hcrash, hurl]
  rfl

/-- At every point of a run, in whichever order tasks end, whatever they come to, and whenever the run
is cancelled: no more tasks are running than there is room for. Each running task was started for its
URL, and the table of URLs by number has one entry for each, which holds that URL. A task that crashes
is found there, and reported as a failure with its own URL. When a look finds the run cancelled, no
task is started after it. The run itself is one way through these points. -/
theorem Pool.points_of_run (p : Pool ρ) (σ : Schedule ρ) (urls : List String) :
  (∃ s, Leads p σ (startPoint p urls) (.ended s) ∧ p.run σ urls = s.close) ∧
    ∀ c, Leads p σ (startPoint p urls) c →
      c.state.running.length ≤ max p.concurrency 1 ∧
      (c.state.running.map (·.id)).Nodup ∧
      c.state.inFlight.Perm (c.state.running.map fun t => (t.id, t.url)) ∧
      (∀ t ∈ c.state.running, StartedBefore p σ urls c t) ∧
      (∀ s, c = .waiting s → ∀ t ∈ s.running, ∀ text,
        (p.perform s t).ending = .crashed text →
          s.inFlight.lookup t.id = some t.url ∧
          (s.join p t).events = s.events ++ [.failed t.url (.record (.crashed text))]) ∧
      (∀ s, c = .filling s → s.running.length < max p.concurrency 1 → σ.cancels s = true →
        ∀ c', Leads p σ c c' →
          c'.state.pending = s.pending ∧ c'.state.running.Sublist s.running)
  := by
  constructor
  · use (State.initial p.model urls).loop p σ
    exact ⟨leads_loop _, rfl⟩
  · intro c hc
    have hreached := (isReached_of_leads hc).state
    have htracked := hreached.tracked
    refine ⟨hreached.running_le, htracked.distinct, ?_, startedBefore_of_leads hc, ?_, ?_⟩
    · rw [htracked.inFlight]
      apply List.reverse_perm
    · rintro s rfl t ht text hcrash
      exact hreached.events_of_crash ht hcrash
    · rintro s rfl room hcancels c' hc'
      exact quiet_of_cancels room hcancels hc'

end PageModel.Pipeline
