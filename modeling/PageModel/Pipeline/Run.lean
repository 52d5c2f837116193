import PageModel.Pipeline.Task

/-!
# Runs over many URLs

URLs are worked on in tasks, a bounded number of them at a time. New tasks are started in the order
of the URLs as long as there is room and the run has not been cancelled; then one of the running
tasks ends, whichever it may be, and is accounted for. A task that crashes tells nothing but its
number, by which its URL is found again. What ends next and when the run is cancelled is left to a
schedule, which may look at all that has happened.
-/

namespace PageModel.Pipeline

/-- How many URLs came to which outcome. -/
structure Stats where
  extracted : Nat := 0
  skipped : Nat := 0
  rejected : Nat := 0
  failed : Nat := 0
deriving Repr, DecidableEq

/-- What is reported of a run. -/
inductive Event where
  | started (model : String) (urls : Nat)
  | rejected (url : String)
  | extracted (url : String)
  | skipped (url : String)
  | failed (url : String) (error : Error)
  | finished (stats : Stats)
deriving Repr, DecidableEq

/-- A record with the URL for which it was asked. -/
structure Extracted (ρ : Type) where
  url : String
  record : ρ
deriving Repr, DecidableEq

/-- A running task: its number and its URL. -/
structure Task where
  id : Nat
  url : String
deriving Repr, DecidableEq

/-- The state of a run: the URLs that have not been started, the running tasks, the URLs of tasks
by number, whether cancelling has been noticed, and what has come of the run so far. -/
structure State (ρ : Type) where
  pending : List String
  running : List Task := []
  inFlight : List (Nat × String) := []
  cancelled : Bool := false
  stats : Stats := {}
  records : List (Extracted ρ) := []
  events : List Event := []
  requests : List String := []
deriving Repr, DecidableEq

/-- What is not determined by a run itself: which of the running tasks ends next, counted from
zero and modulo their number, whether the run is cancelled when it is asked for that, and the
number that a new task gets, which no running task has. -/
structure Schedule (ρ : Type) where
  next : State ρ → Nat
  cancels : State ρ → Bool
  number : State ρ → Nat
  number_unused : ∀ (s : State ρ) (t : Task), t ∈ s.running → t.id ≠ number s

/-- What the tasks of a run do: the name of the model, how many tasks may run at a time, and what
each comes to when it ends. This may depend on all that has happened: a URL that is worked on twice
need not come to the same twice. -/
structure Pool (ρ : Type) where
  model : String
  concurrency : Nat
  perform : State ρ → Task → Work ρ

/-- How many tasks may run at a time. This is never less than one. -/
def Pool.limit {ρ : Type} (p : Pool ρ) : Nat :=
  max p.concurrency 1

/-- The tasks that fetch pages and extract records from them; what comes of fetching may depend on
all that has happened. -/
def Pool.ofFetch {ρ : Type} (x : Extractor ρ) (arrival : State ρ → Task → Arrival)
    (concurrency : Nat) : Pool ρ where
  model := x.name
  concurrency
  perform s t := work x (arrival s t) t.url

/-- What a run is about: the extractor, what comes of fetching the page of a URL, and how many tasks
may run at a time. -/
structure Setup (ρ : Type) where
  extractor : Extractor ρ
  fetch : String → Arrival
  concurrency : Nat

/-- The tasks of a run. -/
def Setup.pool {ρ : Type} (c : Setup ρ) : Pool ρ :=
  .ofFetch c.extractor (fun _ t => c.fetch t.url) c.concurrency

namespace State

variable {ρ : Type}

/-! ### Starting tasks -/

/-- The state at the start of a run. -/
def initial (model : String) (urls : List String) : State ρ :=
  { pending := urls, events := [.started model urls.length] }

/-- The state after it has been asked whether the run is cancelled. -/
def observe (s : State ρ) (cancels : Bool) : State ρ :=
  { s with cancelled := s.cancelled || cancels }

/-- The state after a task with a number has been started for a URL; `pending` are the URLs after
it. -/
def spawn (s : State ρ) (id : Nat) (url : String) (pending : List String) : State ρ :=
  { s with
    pending
    running := s.running ++ [⟨id, url⟩]
    inFlight := (id, url) :: s.inFlight }

/-- The state after tasks have been started for as many of the pending URLs as there is room for,
unless the run is cancelled. -/
def refill (limit : Nat) (schedule : Schedule ρ) (s : State ρ) : State ρ :=
  if s.running.length < limit then
    let s' := s.observe (schedule.cancels s)
    if s'.cancelled then s'
    else
      match h : s'.pending with
      | [] => s'
      | url :: pending =>
          have : ((s'.spawn (schedule.number s') url pending).pending).length
              < s.pending.length := by
            have hp : s.pending = url :: pending := h
            rw [hp]
            exact Nat.lt_succ_self _
          refill limit schedule (s'.spawn (schedule.number s') url pending)
  else s
termination_by s.pending.length

/-! ### Accounting for tasks -/

/-- The state after an event has been reported. -/
def report (s : State ρ) (e : Event) : State ρ :=
  { s with events := s.events ++ [e] }

/-- The state after the outcome of a URL has been accounted for. -/
def settle (s : State ρ) (url : String) : Outcome ρ → State ρ
  | .extracted record =>
      { s.report (.extracted url) with
        stats := { s.stats with extracted := s.stats.extracted + 1 }
        records := s.records ++ [⟨url, record⟩] }
  | .skipped =>
      { s.report (.skipped url) with stats := { s.stats with skipped := s.stats.skipped + 1 } }
  | .rejected =>
      { s.report (.rejected url) with stats := { s.stats with rejected := s.stats.rejected + 1 } }
  | .failed e =>
      { s.report (.failed url e) with stats := { s.stats with failed := s.stats.failed + 1 } }

/-- The URL of a task, by its number. -/
def urlOf (s : State ρ) (id : Nat) : String :=
  (s.inFlight.lookup id).getD ""

/-- The state without a task. -/
def remove (s : State ρ) (id : Nat) : State ρ :=
  { s with
    running := s.running.filter fun t => t.id ≠ id
    inFlight := s.inFlight.filter fun p => p.1 ≠ id }

/-- The state after a task has ended. -/
def join (p : Pool ρ) (s : State ρ) (t : Task) : State ρ :=
  let w := p.perform s t
  let s' := { s.remove t.id with requests := s.requests ++ w.requests }
  match w.ending with
  | .finished outcome => s'.settle t.url outcome
  | .crashed text => s'.settle (s.urlOf t.id) (.failed (.record (.crashed text)))

/-! ### Counting what is left -/

/-- How many URLs have not been accounted for. -/
def left (s : State ρ) : Nat :=
  s.pending.length + s.running.length

theorem left_spawn {s : State ρ} {id : Nat} {url : String} {pending : List String}
    (h : s.pending = url :: pending) :
  (s.spawn id url pending).left = s.left
  := by
  simp only [left, spawn, h, List.length_append, List.length_cons, List.length_nil]
  omega

theorem left_refill (limit : Nat) (schedule : Schedule ρ) (s : State ρ) :
  (s.refill limit schedule).left = s.left
  := by
  fun_induction refill limit schedule s with
  | case1 => rfl
  | case2 => rfl
  | case3 s _ s' _ url pending hp _ ih =>
      rw [ih, left_spawn hp]
      rfl
  | case4 => rfl

@[simp] theorem left_settle (s : State ρ) (url : String) (o : Outcome ρ) :
  (s.settle url o).left = s.left
  := by
  cases o <;> rfl

theorem left_remove_lt {s : State ρ} {t : Task} (h : t ∈ s.running) :
  (s.remove t.id).left < s.left
  := by
  have : (s.running.filter fun u => u.id ≠ t.id).length < s.running.length := by
    apply List.length_filter_lt_length_iff_exists.mpr
    exact ⟨t, h, by simp⟩
  simp only [left, remove]
  omega

theorem left_join_lt (p : Pool ρ) {s : State ρ} {t : Task} (h : t ∈ s.running) :
  (s.join p t).left < s.left
  := by
  unfold join
  simp only
  split <;> rw [left_settle] <;> exact left_remove_lt h

/-! ### Runs -/

/-- The task that ends next, if any is running. -/
def nextTask? (next : State ρ → Nat) (s : State ρ) : Option Task :=
  s.running[next s % s.running.length]?

theorem mem_of_nextTask? {next : State ρ → Nat} {s : State ρ} {t : Task}
    (h : s.nextTask? next = some t) :
  t ∈ s.running
  := List.mem_of_getElem? h

/-- The state when nothing is left to do. -/
def loop (p : Pool ρ) (schedule : Schedule ρ) (s : State ρ) : State ρ :=
  let s' := s.refill p.limit schedule
  match h : s'.nextTask? schedule.next with
  | none => s'
  | some t =>
      have : (s'.join p t).left < s.left := by
        rw [← left_refill p.limit schedule s]
        exact left_join_lt p (mem_of_nextTask? h)
      loop p schedule (s'.join p t)
termination_by s.left

/-- The state with the end of the run reported. -/
def close (s : State ρ) : State ρ :=
  s.report (.finished s.stats)

end State

variable {ρ : Type}

/-- The state at the end of a run of tasks over URLs. -/
def Pool.run (p : Pool ρ) (schedule : Schedule ρ) (urls : List String) : State ρ :=
  (State.loop p schedule (.initial p.model urls)).close

/-- The state at the end of a run over URLs. -/
def run (c : Setup ρ) (schedule : Schedule ρ) (urls : List String) : State ρ :=
  c.pool.run schedule urls

/-! ### Schedules -/

/-- A number above those of tasks. -/
def numberAbove : List Task → Nat
  | [] => 0
  | t :: ts => max (t.id + 1) (numberAbove ts)

theorem lt_numberAbove {t : Task} {ts : List Task} (h : t ∈ ts) :
  t.id < numberAbove ts
  := by
  induction ts with
  | nil => cases h
  | cons u us ih =>
      simp only [numberAbove]
      rcases List.mem_cons.1 h with rfl | h
      · omega
      · have := ih h
        omega

namespace Schedule

/-- The schedule in which the task that has been running longest ends next, and nothing is
cancelled. -/
def inOrder : Schedule ρ where
  next _ := 0
  cancels _ := false
  number s := numberAbove s.running
  number_unused _ _ h := Nat.ne_of_lt (lt_numberAbove h)

/-- A schedule that is cancelled at the latest when `n` events have been reported. -/
def cancelledAfter (n : Nat) (s : Schedule ρ) : Schedule ρ :=
  { s with cancels := fun state => s.cancels state || n ≤ state.events.length }

end Schedule

end PageModel.Pipeline
