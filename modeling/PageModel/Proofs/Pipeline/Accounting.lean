import Mathlib.Data.List.Perm.Basic
import PageModel.Proofs.Pipeline.Reached

/-!
# Every URL is accounted for once

What a run reports, counts and keeps is determined by a list of accounts, one for each URL that was
started: the URL with what came of it. The events of the accounts are reported in the order in which
tasks end, each counter is the number of events of its kind, and the records are those of the
accounts that have one. Every state of a run has such books (`Reached.books`), with the URLs of the
running tasks and the pending ones not accounted for yet. At the end of a run nothing else is left.
-/

namespace PageModel.Pipeline

variable {ρ : Type} {p : Pool ρ} {σ : Schedule ρ} {urls : List String}

/-! ### Accounts -/

/-- The outcome of a task. A crash is a failure like any other. -/
def Ending.outcome : Ending ρ → Outcome ρ
  | .finished outcome => outcome
  | .crashed text => .failed (.record (.crashed text))

/-- What has come of a URL. -/
structure Account (ρ : Type) where
  url : String
  outcome : Outcome ρ

namespace Account

/-- The event of an account. -/
def event (a : Account ρ) : Event :=
  match a.outcome with
  | .extracted _ => .extracted a.url
  | .skipped => .skipped a.url
  | .rejected => .rejected a.url
  | .failed e => .failed a.url e

/-- The record of an account, if it has one. -/
def record? (a : Account ρ) : Option (Extracted ρ) :=
  match a.outcome with
  | .extracted record => some ⟨a.url, record⟩
  | _ => none

end Account

/-- The account of a task that ends in a state of a run. -/
def Task.account (t : Task) (p : Pool ρ) (s : State ρ) : Account ρ :=
  ⟨t.url, (p.perform s t).ending.outcome⟩

/-! ### Counters -/

namespace Event

/-- Whether an event is about a record that was extracted. -/
def isExtracted : Event → Bool
  | .extracted _ => true
  | _ => false

/-- Whether an event is about a page that was dropped. -/
def isSkipped : Event → Bool
  | .skipped _ => true
  | _ => false

/-- Whether an event is about a URL that is no target. -/
def isRejected : Event → Bool
  | .rejected _ => true
  | _ => false

/-- Whether an event is about a failure. -/
def isFailed : Event → Bool
  | .failed _ _ => true
  | _ => false

end Event

/-- The numbers of events of each kind. -/
def tally (events : List Event) : Stats where
  extracted := events.countP Event.isExtracted
  skipped := events.countP Event.isSkipped
  rejected := events.countP Event.isRejected
  failed := events.countP Event.isFailed

/-- How many URLs have been counted. -/
def Stats.total (s : Stats) : Nat :=
  s.extracted + s.skipped + s.rejected + s.failed

/-- Neither the first nor the last event of a run is counted. -/
theorem tally_run (model : String) (n : Nat) (events : List Event) (s : Stats) :
  tally (.started model n :: (events ++ [.finished s])) = tally events
  := by
  simp [tally, Event.isExtracted, Event.isSkipped, Event.isRejected, Event.isFailed]

theorem tally_started (model : String) (n : Nat) (events : List Event) :
  tally (.started model n :: events) = tally events
  := by
  simp [tally, Event.isExtracted, Event.isSkipped, Event.isRejected, Event.isFailed]

/-- Every account is counted once. -/
theorem total_tally (accounts : List (Account ρ)) :
  (tally (accounts.map Account.event)).total = accounts.length
  := by
  induction accounts with
  | nil => rfl
  | cons a accounts ih =>
      rcases a with ⟨url, _ | _ | _ | _⟩ <;>
        simp [tally, Stats.total, Account.event, List.countP_cons, Event.isExtracted,
          Event.isSkipped, Event.isRejected, Event.isFailed] at ih ⊢ <;>
        omega

/-- Accounting for an outcome reports its event, counts it and keeps its record. -/
theorem settle_eq {s : State ρ} (hs : s.stats = tally s.events) (a : Account ρ) :
  s.settle a.url a.outcome =
    { s with
      events := s.events ++ [a.event]
      stats := tally (s.events ++ [a.event])
      records := s.records ++ a.record?.toList }
  := by
  rcases a with ⟨url, _ | _ | _ | _⟩ <;>
    simp [State.settle, State.report, hs, Account.event, Account.record?, tally,
      List.countP_append, Event.isExtracted, Event.isSkipped, Event.isRejected, Event.isFailed]

/-! ### Books -/

/-- The books of a state: its events, counters and records come from a list of accounts, each of a
task that was running when it ended. The URLs of the accounts and of the running tasks are those
that were started, and in their order if one task runs at a time. -/
structure Books (p : Pool ρ) (σ : Schedule ρ) (urls : List String) (s : State ρ)
    (done : List (Account ρ)) : Prop where
  events : s.events = .started p.model urls.length :: done.map Account.event
  stats : s.stats = tally s.events
  records : s.records = done.filterMap Account.record?
  source : ∀ a ∈ done, ∃ s' t, Reached p σ urls s' ∧ t ∈ s'.running ∧ a = t.account p s'
  shares : ∃ started, started ++ s.pending = urls ∧
    (done.map (·.url) ++ s.running.map (·.url)).Perm started
  single : p.limit = 1 →
    s.running.length ≤ 1 ∧ done.map (·.url) ++ s.running.map (·.url) ++ s.pending = urls

theorem books_initial :
  Books p σ urls (.initial p.model urls) []
  where
  events := rfl
  stats := rfl
  records := rfl
  source := by simp
  shares := ⟨[], rfl, List.Perm.nil⟩
  single _ := ⟨Nat.zero_le _, rfl⟩

theorem Books.observe {s : State ρ} {done : List (Account ρ)} (h : Books p σ urls s done)
    (cancels : Bool) :
  Books p σ urls (s.observe cancels) done
  where
  events := h.events
  stats := h.stats
  records := h.records
  source := h.source
  shares := h.shares
  single := h.single

/-- Starting a task moves its URL from the pending ones to those of running tasks. -/
theorem Books.spawn {s : State ρ} {done : List (Account ρ)} (h : Books p σ urls s done)
    {url : String} {pending : List String} (room : s.running.length < p.limit)
    (hp : s.pending = url :: pending) (id : Nat) :
  Books p σ urls (s.spawn id url pending) done
  where
  events := h.events
  stats := h.stats
  records := h.records
  source := h.source
  shares := by
    obtain ⟨started, hstarted, hperm⟩ := h.shares
    use started ++ [url]
    constructor
    · rw [← hstarted, hp]
      simp [State.spawn]
    · simp only [State.spawn, List.map_append, List.map_cons, List.map_nil, ← List.append_assoc]
      exact hperm.append_right _
  single h1 := by
    obtain ⟨-, hall⟩ := h.single h1
    constructor
    · simp only [State.spawn, List.length_append, List.length_cons, List.length_nil]
      omega
    · rw [← hall, hp]
      simp [State.spawn]

/-- When a task ends its account is added. A task that crashed is found by its number. -/
theorem join_eq {s : State ρ} (hs : Reached p σ urls s) {done : List (Account ρ)}
    (h : Books p σ urls s done) {t : Task} (ht : t ∈ s.running) :
  s.join p t =
    { s.remove t.id with
      requests := s.requests ++ (p.perform s t).requests
      events := s.events ++ [(t.account p s).event]
      stats := tally (s.events ++ [(t.account p s).event])
      records := s.records ++ (t.account p s).record?.toList }
  := by
  have hurl := hs.tracked.urlOf ht
  let s' : State ρ :=
    { s.remove t.id with requests := s.requests ++ (p.perform s t).requests }
  have hstats : s'.stats = tally s'.events := h.stats
  unfold State.join
  simp only
  split
  · next o ho =>
      have ha : t.account p s = ⟨t.url, o⟩ := by rw [Task.account, ho, Ending.outcome]
      rw [ha]
      exact settle_eq hstats ⟨t.url, o⟩
  · next text ho =>
      have ha : t.account p s = ⟨t.url, .failed (.record (.crashed text))⟩ := by
        rw [Task.account, ho, Ending.outcome]
      rw [ha, hurl]
      exact settle_eq hstats ⟨t.url, .failed (.record (.crashed text))⟩

theorem Books.join {s : State ρ} (hs : Reached p σ urls s) {done : List (Account ρ)}
    (h : Books p σ urls s done) {t : Task} (ht : t ∈ s.running) :
  Books p σ urls (s.join p t) (done ++ [t.account p s])
  := by
  obtain ⟨before, after, hsplit⟩ := List.append_of_mem ht
  have hremove := hs.tracked.remove_running hsplit
  rw [join_eq hs h ht]
  constructor
  · simp [h.events]
  · rfl
  · rcases hr : (t.account p s).record? with _ | r
    · simp [h.records, hr]
    · simp [h.records, hr]
  · intro a ha
    rcases List.mem_append.1 ha with ha | ha
    · exact h.source a ha
    · rw [List.mem_singleton] at ha
      use s, t, hs, ht, ha
  · obtain ⟨started, hstarted, hperm⟩ := h.shares
    use started, hstarted
    apply List.Perm.trans _ hperm
    simp only [hremove, hsplit, List.map_append, List.map_cons, List.map_nil, Task.account,
      List.append_assoc, List.singleton_append]
    apply List.Perm.append_left
    exact List.perm_middle.symm
  · intro h1
    obtain ⟨hlength, hall⟩ := h.single h1
    have hempty : before = [] ∧ after = [] := by
      rw [hsplit, List.length_append, List.length_cons] at hlength
      constructor
      · apply List.length_eq_zero_iff.1
        omega
      · apply List.length_eq_zero_iff.1
        omega
    obtain ⟨rfl, rfl⟩ := hempty
    constructor
    · simp [hremove]
    · change (done ++ [t.account p s]).map (·.url) ++ (s.remove t.id).running.map (·.url)
        ++ s.pending = urls
      rw [← hall, hremove, hsplit]
      simp [Task.account]

/-- Every state of a run has its books. -/
theorem Reached.books {s : State ρ} (hs : Reached p σ urls s) :
  ∃ done, Books p σ urls s done
  := by
  induction hs with
  | initial => exact ⟨[], books_initial⟩
  | observe _ _ ih =>
      obtain ⟨done, h⟩ := ih
      use done
      exact h.observe _
  | spawn _ room _ hp ih =>
      obtain ⟨done, h⟩ := ih
      use done
      exact h.spawn room hp _
  | @join s t hs ht ih =>
      obtain ⟨done, h⟩ := ih
      use done ++ [t.account p s]
      exact h.join hs ht

/-! ### The end of a run -/

theorem reached_end (p : Pool ρ) (σ : Schedule ρ) (urls : List String) :
  Reached p σ urls ((State.initial p.model urls).loop p σ)
  := reached_loop .initial

/-- At the end of a run the URLs of the accounts are those that were started, and these are all
URLs unless cancelling has been noticed. -/
theorem Books.loop {done : List (Account ρ)}
    (h : Books p σ urls ((State.initial p.model urls).loop p σ) done) :
  ∃ started, started <+: urls ∧ ((p.run σ urls).cancelled = false → started = urls) ∧
    (done.map (·.url)).Perm started
  := by
  obtain ⟨started, hstarted, hperm⟩ := h.shares
  use started
  refine ⟨⟨_, hstarted⟩, ?_, ?_⟩
  · intro hc
    rcases pending_loop (p := p) (σ := σ) (State.initial p.model urls) with h' | h'
    · exact absurd (hc.symm.trans h') Bool.false_ne_true
    · rw [h', List.append_nil] at hstarted
      exact hstarted
  · rw [running_loop, List.map_nil, List.append_nil] at hperm
    exact hperm

/-- The events of a run. -/
theorem Books.events_run {done : List (Account ρ)}
    (h : Books p σ urls ((State.initial p.model urls).loop p σ) done) :
  (p.run σ urls).events
    = .started p.model urls.length
      :: (done.map Account.event ++ [.finished (p.run σ urls).stats])
  := by
  rw [← List.cons_append, ← h.events]
  rfl

/-- The counters of a run. -/
theorem Books.stats_run {done : List (Account ρ)}
    (h : Books p σ urls ((State.initial p.model urls).loop p σ) done) :
  (p.run σ urls).stats = tally (done.map Account.event)
  := by
  rw [← tally_started p.model urls.length, ← h.events]
  exact h.stats

/-- No URL is lost, counted twice or miscounted, whatever the tasks come to, in whichever order they
end, and whenever the run is cancelled. The URLs that were started come first among the given ones
and are all of them if cancelling was never noticed. Each has one account, and what is reported
between the start and the end of the run, what is counted, and what is kept are the events, the
numbers of events and the records of these accounts. -/
theorem Pool.run_accounts (p : Pool ρ) (σ : Schedule ρ) (urls : List String) :
  ∃ (started : List String) (done : List (Account ρ)),
    started <+: urls ∧
    ((∀ s, σ.cancels s = false) → (p.run σ urls).cancelled = false) ∧
    ((p.run σ urls).cancelled = false → started = urls) ∧
    (done.map (·.url)).Perm started ∧
    (∀ a ∈ done, ∃ s t, Reached p σ urls s ∧ t ∈ s.running ∧ a = t.account p s) ∧
    (p.run σ urls).events
      = .started p.model urls.length
        :: (done.map Account.event ++ [.finished (p.run σ urls).stats]) ∧
    (p.run σ urls).stats = tally (p.run σ urls).events ∧
    (p.run σ urls).stats.total = started.length ∧
    (p.run σ urls).records = done.filterMap Account.record?
  := by
  obtain ⟨done, h⟩ := (reached_end p σ urls).books
  obtain ⟨started, hstart, hall, hperm⟩ := h.loop
  use started, done
  refine ⟨hstart, ?_, hall, hperm, h.source, h.events_run, ?_, ?_, h.records⟩
  · exact (reached_end p σ urls).cancelled_eq_false
  · rw [h.events_run, tally_run]
    exact h.stats_run
  · rw [h.stats_run, total_tally, ← hperm.length_eq, List.length_map]

end PageModel.Pipeline
