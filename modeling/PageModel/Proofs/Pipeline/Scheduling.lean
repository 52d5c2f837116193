import PageModel.Proofs.Pipeline.Accounting

/-!
# Schedules do not matter

When what comes of fetching a page depends on the URL alone, a crash excepted in its wording, then
the account of a URL does not depend on when and beside which others it is worked on
(`account_ofFetch`). So any two runs over the same URLs that are not cancelled come to the same
accounts in some order (`Books.plain_perm`), and a run with one task at a time comes to them in the
order of the URLs (`Books.plain_eq_of_single`). The wording of a crash is set aside throughout: it
is up to the task that crashed.
-/

namespace PageModel.Pipeline

variable {ρ : Type}

/-! ### The wording of crashes -/

/-- An arrival without the wording of a crash. -/
def Arrival.plain : Arrival → Arrival
  | .crashed _ => .crashed ""
  | a => a

/-- An error without the wording of a crash. -/
def plainError : Error → Error
  | .record (.crashed _) => .record (.crashed "")
  | e => e

/-- An event without the wording of a crash. -/
def Event.plain : Event → Event
  | .failed url e => .failed url (plainError e)
  | e => e

/-- An account without the wording of a crash. -/
def Account.plain (a : Account ρ) : Account ρ :=
  match a.outcome with
  | .failed e => ⟨a.url, .failed (plainError e)⟩
  | _ => a

theorem plain_event (a : Account ρ) :
  a.event.plain = a.plain.event
  := by
  rcases a with ⟨url, _ | _ | _ | _⟩ <;> rfl

theorem record?_plain (a : Account ρ) :
  a.plain.record? = a.record?
  := by
  rcases a with ⟨url, _ | _ | _ | _⟩ <;> rfl

/-- What is counted does not depend on the wording of crashes. -/
theorem tally_plain (events : List Event) :
  tally (events.map Event.plain) = tally events
  := by
  have hextracted : Event.isExtracted ∘ Event.plain = Event.isExtracted := by
    funext e
    cases e <;> rfl
  have hskipped : Event.isSkipped ∘ Event.plain = Event.isSkipped := by
    funext e
    cases e <;> rfl
  have hrejected : Event.isRejected ∘ Event.plain = Event.isRejected := by
    funext e
    cases e <;> rfl
  have hfailed : Event.isFailed ∘ Event.plain = Event.isFailed := by
    funext e
    cases e <;> rfl
  simp only [tally, List.countP_map, hextracted, hskipped, hrejected, hfailed]

/-- What is counted does not depend on the order of events. -/
theorem tally_perm {events events' : List Event} (h : events.Perm events') :
  tally events = tally events'
  := by
  simp only [tally, h.countP_eq]

/-! ### The account of a URL -/

/-- What comes of a URL, given what comes of fetching each page. -/
def accountOf (x : Extractor ρ) (fetch : String → Arrival) (url : String) : Account ρ :=
  ⟨url, (work x (fetch url) url).ending.outcome⟩

/-- What comes of fetching depends on the URL alone, but for the wording of a crash. -/
def Steady (arrival : State ρ → Task → Arrival) (fetch : String → Arrival) : Prop :=
  ∀ s t, (arrival s t).plain = (fetch t.url).plain

/-- Where fetching is steady, the account of a task is that of its URL, whatever the state in which
the task ends. -/
theorem account_ofFetch {x : Extractor ρ} {arrival : State ρ → Task → Arrival}
    {fetch : String → Arrival} (h : Steady arrival fetch) (c : Nat) (s : State ρ) (t : Task) :
  (t.account (.ofFetch x arrival c) s).plain = (accountOf x fetch t.url).plain
  := by
  have hst := h s t
  simp only [Task.account, accountOf, Pool.ofFetch, work]
  by_cases htarget : x.target.isMatch t.url = true
  · simp only [htarget, if_true]
    rcases ha : arrival s t with page | e | text <;> rcases hf : fetch t.url with page' | e' | text'
      <;> simp only [ha, hf, Arrival.plain, reduceCtorEq] at hst
    · rw [hst]
    · rw [hst]
    · rfl
  · simp only [htarget]
    rfl

/-! ### Runs that are not cancelled -/

/-- The events that are reported of URLs. -/
def State.reports (s : State ρ) : List Event :=
  s.events.filter fun e =>
    match e with
    | .started _ _ => false
    | .finished _ => false
    | _ => true

/-- The reports of a run are the events of its accounts. -/
theorem Books.reports_run {p : Pool ρ} {σ : Schedule ρ} {urls : List String}
    {done : List (Account ρ)} (h : Books p σ urls ((State.initial p.model urls).loop p σ) done) :
  (p.run σ urls).reports = done.map Account.event
  := by
  have hkeep : ∀ e ∈ done.map Account.event, (match e with
      | .started _ _ => false
      | .finished _ => false
      | _ => true) = true := by
    intro e he
    obtain ⟨a, -, rfl⟩ := List.mem_map.1 he
    rcases a with ⟨url, _ | _ | _ | _⟩ <;> rfl
  rw [State.reports, h.events_run]
  simp only [List.filter_cons, List.filter_append, List.filter_nil, Bool.false_eq_true, if_false,
    List.append_nil]
  exact List.filter_eq_self.2 hkeep

section Uncancelled

variable {x : Extractor ρ} {arrival : State ρ → Task → Arrival} {fetch : String → Arrival}
  {σ : Schedule ρ} {c : Nat} {urls : List String} {done : List (Account ρ)}

/-- The accounts of a run are those of their URLs. -/
theorem Books.plain_eq (h : Steady arrival fetch) {s : State ρ}
    (hbooks : Books (.ofFetch x arrival c) σ urls s done) :
  done.map Account.plain
    = (done.map (·.url)).map fun url => (accountOf x fetch url).plain
  := by
  rw [List.map_map]
  apply List.map_congr_left
  intro a ha
  obtain ⟨s', t, -, -, rfl⟩ := hbooks.source a ha
  exact account_ofFetch h c s' t

/-- A run that is not cancelled has the accounts of all URLs. -/
theorem Books.plain_perm (h : Steady arrival fetch) (hσ : ∀ s, σ.cancels s = false)
    (hbooks : Books (.ofFetch x arrival c) σ urls
      ((State.initial x.name urls).loop (.ofFetch x arrival c) σ) done) :
  (done.map Account.plain).Perm (urls.map fun url => (accountOf x fetch url).plain)
  := by
  rw [hbooks.plain_eq h]
  apply List.Perm.map
  obtain ⟨started, -, hall, hperm⟩ := Books.loop hbooks
  rw [hall ((reached_end _ σ urls).cancelled_eq_false hσ)] at hperm
  exact hperm

/-- With one task at a time the accounts are in the order of the URLs. -/
theorem Books.plain_eq_of_single (h : Steady arrival fetch) (hσ : ∀ s, σ.cancels s = false)
    (hc : c ≤ 1)
    (hbooks : Books (.ofFetch x arrival c) σ urls
      ((State.initial x.name urls).loop (.ofFetch x arrival c) σ) done) :
  done.map Account.plain = urls.map fun url => (accountOf x fetch url).plain
  := by
  rw [hbooks.plain_eq h]
  have hlimit : (Pool.ofFetch x arrival c).limit = 1 := Nat.max_eq_right hc
  obtain ⟨-, hall⟩ := hbooks.single hlimit
  have hpending : ((State.initial x.name urls).loop (.ofFetch x arrival c) σ).pending = [] := by
    have hcancelled := (reached_end (.ofFetch x arrival c) σ urls).cancelled_eq_false hσ
    rcases pending_loop (p := .ofFetch x arrival c) (σ := σ) (State.initial x.name urls)
      with h' | h'
    · exact absurd (hcancelled.symm.trans h') Bool.false_ne_true
    · exact h'
  rw [running_loop, hpending, List.map_nil, List.append_nil, List.append_nil] at hall
  rw [hall]

/-- What a run that is not cancelled comes to, the wording of crashes apart: its reports, counters
and records are those of the accounts of all URLs in some order, which is that of the URLs if one
task runs at a time. -/
theorem exists_accounts (h : Steady arrival fetch) (hσ : ∀ s, σ.cancels s = false) (c : Nat)
    (urls : List String) :
  ∃ accounts : List (Account ρ),
    accounts.Perm (urls.map fun url => (accountOf x fetch url).plain) ∧
    (c ≤ 1 → accounts = urls.map fun url => (accountOf x fetch url).plain) ∧
    ((Pool.ofFetch x arrival c).run σ urls).reports.map Event.plain
      = accounts.map Account.event ∧
    ((Pool.ofFetch x arrival c).run σ urls).stats = tally (accounts.map Account.event) ∧
    ((Pool.ofFetch x arrival c).run σ urls).records = accounts.filterMap Account.record?
  := by
  obtain ⟨done, hbooks⟩ := (reached_end (.ofFetch x arrival c) σ urls).books
  have hevents : (done.map Account.event).map Event.plain
      = (done.map Account.plain).map Account.event := by
    rw [List.map_map, List.map_map]
    apply List.map_congr_left
    intro a _
    exact plain_event a
  use done.map Account.plain
  refine ⟨hbooks.plain_perm h hσ, fun hc => hbooks.plain_eq_of_single h hσ hc, ?_, ?_, ?_⟩
  · rw [hbooks.reports_run, hevents]
  · rw [hbooks.stats_run, ← hevents, tally_plain]
  · rw [List.filterMap_map]
    apply hbooks.records.trans
    apply List.filterMap_congr
    intro a _
    exact (record?_plain a).symm

end Uncancelled

/-- Two runs over the same URLs that are not cancelled count the same and keep the same records and
report the same of the same URLs, up to their order and the wording of crashes, however many tasks
run at a time and in whichever order they end. With one task at a time the records and reports are
in the order of the URLs. -/
theorem run_independent_of_schedule {x : Extractor ρ} {fetch : String → Arrival}
    {arrival arrival' : State ρ → Task → Arrival} (h : Steady arrival fetch)
    (h' : Steady arrival' fetch) {σ σ' : Schedule ρ} (hσ : ∀ s, σ.cancels s = false)
    (hσ' : ∀ s, σ'.cancels s = false) (c c' : Nat) (urls : List String) :
  ((Pool.ofFetch x arrival c).run σ urls).stats
      = ((Pool.ofFetch x arrival' c').run σ' urls).stats ∧
    ((Pool.ofFetch x arrival c).run σ urls).records.Perm
      ((Pool.ofFetch x arrival' c').run σ' urls).records ∧
    (((Pool.ofFetch x arrival c).run σ urls).reports.map Event.plain).Perm
      (((Pool.ofFetch x arrival' c').run σ' urls).reports.map Event.plain) ∧
    (c ≤ 1 →
      ((Pool.ofFetch x arrival c).run σ urls).records
        = urls.filterMap (fun url => (accountOf x fetch url).record?) ∧
      ((Pool.ofFetch x arrival c).run σ urls).reports.map Event.plain
        = urls.map fun url => (accountOf x fetch url).event.plain)
  := by
  obtain ⟨done, hperm, hsingle, hreports, hstats, hrecords⟩ := exists_accounts (x := x) h hσ c urls
  obtain ⟨done', hperm', -, hreports', hstats', hrecords'⟩ :=
    exists_accounts (x := x) h' hσ' c' urls
  have hsame : done.Perm done' := hperm.trans hperm'.symm
  refine ⟨?_, ?_, ?_, ?_⟩
  · rw [hstats, hstats']
    exact tally_perm (hsame.map _)
  · rw [hrecords, hrecords']
    exact hsame.filterMap _
  · rw [hreports, hreports']
    exact hsame.map _
  · intro hc
    rw [hrecords, hreports, hsingle hc, List.filterMap_map, List.map_map]
    constructor
    · apply List.filterMap_congr
      intro url _
      exact record?_plain _
    · apply List.map_congr_left
      intro url _
      exact (plain_event _).symm

/-! ### Two runs over one URL twice and a crash -/

/-- The schedule in which the task that has been running shortest ends next, and nothing is
cancelled. -/
def Schedule.lastFirst : Schedule ρ :=
  { Schedule.inOrder with next := fun s => s.running.length - 1 }

/-- The extractor that takes every page. -/
def anyPage : Extractor Unit where
  name := "any"
  target := ⟨[⟨"", .empty⟩], none, false⟩
  help := ⟨[], none, false⟩
  rules := []
  factory := .ok ()
  afterExtract := none

/-- What comes of fetching when the tasks of one URL crash, each telling its own number. -/
def crashAt (url : String) (_ : State Unit) (t : Task) : Arrival :=
  if t.url = url then .crashed (toString t.id) else .page ⟨t.url, "", false⟩

theorem steady_crashAt (url : String) :
  Steady (crashAt url) fun u => crashAt url (.initial "" []) ⟨0, u⟩
  := by
  intro s t
  simp only [crashAt]
  split <;> rfl

/-- One task at a time in order and two at a time out of order, with a URL that is asked for twice
and one that crashes. -/
theorem inOrder_lastFirst_crashAt :
  Steady (crashAt "b") (fun u => crashAt "b" (.initial "" []) ⟨0, u⟩) ∧
    (∀ s : State Unit, Schedule.inOrder.cancels s = false) ∧
    (∀ s : State Unit, Schedule.lastFirst.cancels s = false) ∧
    ((Pool.ofFetch anyPage (crashAt "b") 0).run .inOrder ["a", "b", "a"]).stats
      = ((Pool.ofFetch anyPage (crashAt "b") 2).run .lastFirst ["a", "b", "a"]).stats ∧
    ((Pool.ofFetch anyPage (crashAt "b") 2).run .lastFirst ["a", "b", "a"]).stats = ⟨2, 0, 0, 1⟩
  := by
  have hin : ∀ s : State Unit, Schedule.inOrder.cancels s = false := fun _ => rfl
  have hlast : ∀ s : State Unit, Schedule.lastFirst.cancels s = false := fun _ => rfl
  refine ⟨steady_crashAt "b", hin, hlast, ?_, by decide +kernel⟩
  exact (run_independent_of_schedule (x := anyPage) (steady_crashAt "b") (steady_crashAt "b") hin
    hlast 0 2 ["a", "b", "a"]).1

end PageModel.Pipeline
