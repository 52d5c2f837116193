import PageModel.Proofs.Extractor.Stop
import PageModel.Proofs.Pipeline.Scheduling

/-!
# What is fetched, and what comes of it

The page of a URL is fetched if the URL is a target, and only then (`Reached.ledger`). What a URL ends
as is decided in two places: by the URL that was asked for, before its page is fetched, and by the URL
that the page has, when a record is to be made of it (`EndsAs`). The code that a schema brings along
may behave otherwise each time; all that is asked of it is that it leaves the target as it is.
-/

namespace PageModel.Pipeline

variable {ρ : Type}

/-- The tasks of a run in which the extractor may be another one for each of them, as it is where the
code of the schema looks at more than the page. -/
def Pool.ofVisits (extractor : State ρ → Task → Extractor ρ) (arrival : State ρ → Task → Arrival)
    (model : String) (concurrency : Nat) : Pool ρ where
  model
  concurrency
  perform s t := work (extractor s t) (arrival s t) t.url

/-! ### What a URL ends as -/

/-- The relation of an extractor, a URL and what comes of fetching its page, if that is asked for, with
what the URL ends as. -/
inductive EndsAs (x : Extractor ρ) (arrival : Arrival) (url : String) : Outcome ρ → Prop
  | noTarget (hurl : x.target.isMatch url = false) :
      EndsAs x arrival url .rejected
  | notFetched {e : Error} (hurl : x.target.isMatch url = true) (ha : arrival = .failed e) :
      EndsAs x arrival url (.failed e)
  | crashed {text : String} (hurl : x.target.isMatch url = true) (ha : arrival = .crashed text) :
      EndsAs x arrival url (.failed (.record (.crashed text)))
  | redirected {page : Page} (hurl : x.target.isMatch url = true) (ha : arrival = .page page)
      (hpage : x.target.isMatch page.url = false) :
      EndsAs x arrival url .rejected
  | notExtracted {page : Page} {e : Error} (hurl : x.target.isMatch url = true)
      (ha : arrival = .page page) (hpage : x.target.isMatch page.url = true)
      (hresult : (x.tryApply page).1 = .error e) :
      EndsAs x arrival url (.failed e)
  | skipped {page : Page} {record : ρ} (hurl : x.target.isMatch url = true)
      (ha : arrival = .page page) (hpage : x.target.isMatch page.url = true)
      (hresult : (x.tryApply page).1 = .ok (some record))
      (hskip : (x.tryApply page).2.skip = true) :
      EndsAs x arrival url .skipped
  | extracted {page : Page} {record : ρ} (hurl : x.target.isMatch url = true)
      (ha : arrival = .page page) (hpage : x.target.isMatch page.url = true)
      (hresult : (x.tryApply page).1 = .ok (some record))
      (hskip : (x.tryApply page).2.skip = false) :
      EndsAs x arrival url (.extracted record)

/-- There is no record of a page, and no error, only if the page is no target. -/
theorem tryApply_eq_ok_none_iff (x : Extractor ρ) (page : Page) :
  (x.tryApply page).1 = .ok none ↔ x.target.isMatch page.url = false
  := by
  constructor
  · intro h
    obtain ⟨stop, hstop⟩ := x.exists_stopsAt page
    rw [Extractor.tryApply_of_stopsAt hstop] at h
    cases hstop with
    | noTarget htarget => exact htarget
    | factory _ _ => cases h
    | writer _ _ _ => cases h
    | hook _ _ _ => cases h
    | finished _ _ => cases h
  · intro h
    rw [Extractor.tryApply_of_stopsAt (.noTarget h)]
    rfl

/-- The outcome of a page that was fetched, in the three parts that decide on it. -/
theorem classify_eq (x : Extractor ρ) (page : Page) :
  classify x page =
    match (x.tryApply page).1 with
    | .error e => .failed e
    | .ok none => .rejected
    | .ok (some record) => if (x.tryApply page).2.skip then .skipped else .extracted record
  := by
  unfold classify
  generalize x.tryApply page = tried
  rcases tried with ⟨e | _ | record, page'⟩
  · rfl
  · rfl
  · rfl

/-- A URL ends as something. -/
theorem endsAs_work (x : Extractor ρ) (arrival : Arrival) (url : String) :
  EndsAs x arrival url (work x arrival url).ending.outcome
  := by
  unfold work
  cases hurl : x.target.isMatch url with
  | false => exact .noTarget hurl
  | true =>
      cases arrival with
      | failed e => exact .notFetched hurl rfl
      | crashed text => exact .crashed hurl rfl
      | page page =>
          simp only [if_true, endingOf, Ending.outcome, classify_eq]
          cases hpage : x.target.isMatch page.url with
          | false =>
              rw [(tryApply_eq_ok_none_iff x page).2 hpage]
              exact .redirected hurl rfl hpage
          | true =>
              rcases hresult : (x.tryApply page).1 with e | _ | record
              · exact .notExtracted hurl rfl hpage hresult
              · rw [tryApply_eq_ok_none_iff, hpage] at hresult
                cases hresult
              · cases hskip : (x.tryApply page).2.skip with
                | false => exact .extracted hurl rfl hpage hresult hskip
                | true => exact .skipped hurl rfl hpage hresult hskip

/-- A URL ends as one thing only. -/
theorem EndsAs.outcome_eq {x : Extractor ρ} {arrival : Arrival} {url : String} {o : Outcome ρ}
    (h : EndsAs x arrival url o) :
  (work x arrival url).ending.outcome = o
  := by
  cases h with
  | noTarget hurl => simp [work, hurl, Ending.outcome]
  | notFetched hurl ha => simp [work, hurl, ha, endingOf, Ending.outcome]
  | crashed hurl ha => simp [work, hurl, ha, endingOf, Ending.outcome]
  | redirected hurl ha hpage =>
      simp [work, hurl, ha, endingOf, Ending.outcome, classify_eq,
        (tryApply_eq_ok_none_iff x _).2 hpage]
  | notExtracted hurl ha _ hresult =>
      simp [work, hurl, ha, endingOf, Ending.outcome, classify_eq, hresult]
  | skipped hurl ha _ hresult hskip =>
      simp [work, hurl, ha, endingOf, Ending.outcome, classify_eq, hresult, hskip]
  | extracted hurl ha _ hresult hskip =>
      simp [work, hurl, ha, endingOf, Ending.outcome, classify_eq, hresult, hskip]

theorem endsAs_iff (x : Extractor ρ) (arrival : Arrival) (url : String) (o : Outcome ρ) :
  EndsAs x arrival url o ↔ o = (work x arrival url).ending.outcome
  := by
  constructor
  · intro h
    exact h.outcome_eq.symm
  · rintro rfl
    apply endsAs_work

/-- A URL has a record only if it is a target and its page is one, and the page is not marked. -/
theorem EndsAs.of_extracted {x : Extractor ρ} {arrival : Arrival} {url : String} {record : ρ}
    (h : EndsAs x arrival url (.extracted record)) :
  x.target.isMatch url = true ∧ ∃ page, arrival = .page page ∧
    x.target.isMatch page.url = true ∧ (x.tryApply page).1 = .ok (some record) ∧
    (x.tryApply page).2.skip = false
  := by
  cases h with
  | extracted hurl ha hpage hresult hskip => exact ⟨hurl, _, ha, hpage, hresult, hskip⟩

/-- An account with a record is that of its URL. -/
theorem Account.of_record? {a : Account ρ} {r : Extracted ρ} (h : a.record? = some r) :
  a = ⟨r.url, .extracted r.record⟩
  := by
  rcases a with ⟨url, record | _ | _ | _⟩
  · obtain rfl : ⟨url, record⟩ = r := Option.some.inj h
    rfl
  · cases h
  · cases h
  · cases h

/-! ### What is fetched -/

section

variable {extractor : State ρ → Task → Extractor ρ} {arrival : State ρ → Task → Arrival}
  {target : UrlRuleSet} {model : String} {c : Nat} {σ : Schedule ρ} {urls : List String}

/-- A task asks for the page of its URL once if the URL is a target, and else for none. -/
theorem requests_ofVisits (h : ∀ s t, (extractor s t).target = target) (s : State ρ) (t : Task) :
  ((Pool.ofVisits extractor arrival model c).perform s t).requests
    = [t.url].filter target.isMatch
  := by
  simp only [Pool.ofVisits, work, h]
  cases htarget : target.isMatch t.url with
  | false => simp [htarget]
  | true => simp [htarget]

/-- In every state of a run the pages that have been asked for are those of the accounts whose URL is a
target. -/
theorem Reached.ledger (h : ∀ s t, (extractor s t).target = target) {s : State ρ}
    (hs : Reached (.ofVisits extractor arrival model c) σ urls s) :
  ∃ done, Books (.ofVisits extractor arrival model c) σ urls s done ∧
    s.requests = (done.map (·.url)).filter target.isMatch
  := by
  induction hs with
  | initial => exact ⟨[], books_initial, rfl⟩
  | observe _ _ ih =>
      obtain ⟨done, hbooks, hrequests⟩ := ih
      use done, hbooks.observe _
      exact hrequests
  | spawn _ room _ hp ih =>
      obtain ⟨done, hbooks, hrequests⟩ := ih
      use done, hbooks.spawn room hp _
      exact hrequests
  | @join s t hs ht ih =>
      obtain ⟨done, hbooks, hrequests⟩ := ih
      refine ⟨_, hbooks.join hs ht, ?_⟩
      rw [join_eq hs hbooks ht, List.map_append, List.filter_append, ← hrequests]
      apply congrArg (s.requests ++ ·)
      exact requests_ofVisits h s t

end

/-- In a run over URLs those that are started come first among them, and are all of them if cancelling
is never noticed. Of these the pages of the targets are fetched, each once, and no other page, in the
order of the URLs if one task runs at a time. What each ends as is settled by the extractor, its URL
and what came of fetching. A record that is kept is that of the URL which was asked for; its page is a
target as well and not marked. -/
theorem Pool.run_ofVisits (extractor : State ρ → Task → Extractor ρ) (target : UrlRuleSet)
    (h : ∀ s t, (extractor s t).target = target) (arrival : State ρ → Task → Arrival)
    (model : String) (c : Nat) (σ : Schedule ρ) (urls : List String) :
  ∃ (started : List String) (done : List (Account ρ)),
    started <+: urls ∧
    ((∀ s, σ.cancels s = false) → started = urls) ∧
    ((Pool.ofVisits extractor arrival model c).run σ urls).requests.Perm
      (started.filter target.isMatch) ∧
    (c ≤ 1 → ((Pool.ofVisits extractor arrival model c).run σ urls).requests
      = started.filter target.isMatch) ∧
    (done.map (·.url)).Perm started ∧
    (∀ a ∈ done, ∃ s t, Reached (.ofVisits extractor arrival model c) σ urls s ∧
      t ∈ s.running ∧ a.url = t.url ∧
      ∀ o, EndsAs (extractor s t) (arrival s t) a.url o ↔ o = a.outcome) ∧
    ((Pool.ofVisits extractor arrival model c).run σ urls).events
      = .started model urls.length :: (done.map Account.event
        ++ [.finished ((Pool.ofVisits extractor arrival model c).run σ urls).stats]) ∧
    ((Pool.ofVisits extractor arrival model c).run σ urls).stats
      = tally (done.map Account.event) ∧
    ((Pool.ofVisits extractor arrival model c).run σ urls).records
      = done.filterMap Account.record? ∧
    ∀ r ∈ ((Pool.ofVisits extractor arrival model c).run σ urls).records,
      target.isMatch r.url = true ∧
      ∃ s t page, Reached (.ofVisits extractor arrival model c) σ urls s ∧ t ∈ s.running ∧
        r.url = t.url ∧ arrival s t = .page page ∧ target.isMatch page.url = true ∧
        ((extractor s t).tryApply page).1 = .ok (some r.record) ∧
        ((extractor s t).tryApply page).2.skip = false
  := by
  have hreached := reached_end (.ofVisits extractor arrival model c) σ urls
  obtain ⟨done, hbooks, hrequests⟩ := hreached.ledger h
  obtain ⟨started, hstart, hall, hperm⟩ := hbooks.loop
  have hrun : ((Pool.ofVisits extractor arrival model c).run σ urls).requests
      = (done.map (·.url)).filter target.isMatch := hrequests
  have hended : ∀ a ∈ done, ∃ s t, Reached (.ofVisits extractor arrival model c) σ urls s ∧
      t ∈ s.running ∧ a.url = t.url ∧
      ∀ o, EndsAs (extractor s t) (arrival s t) a.url o ↔ o = a.outcome := by
    intro a ha
    obtain ⟨s, t, hs, ht, rfl⟩ := hbooks.source a ha
    use s, t, hs, ht, rfl
    apply endsAs_iff
  refine ⟨started, done, hstart, ?_, ?_, ?_, hperm, hended, hbooks.events_run, hbooks.stats_run,
    hbooks.records, ?_⟩
  · intro hσ
    exact hall (hreached.cancelled_eq_false hσ)
  · rw [hrun]
    exact hperm.filter _
  · intro hc
    have hlimit : (Pool.ofVisits extractor arrival model c).limit = 1 := Nat.max_eq_right hc
    obtain ⟨-, hurls⟩ := hbooks.single hlimit
    rw [running_loop, List.map_nil, List.append_nil] at hurls
    -- Both lists start the given URLs, and they are equally long.
    have hprefix : done.map (·.url) = started := by
      have hlength := hperm.length_eq
      apply List.IsPrefix.eq_of_length _ hlength
      exact List.prefix_of_prefix_length_le ⟨_, hurls⟩ hstart (Nat.le_of_eq hlength)
    rw [hrun, hprefix]
  · intro r hr
    have hr' : r ∈ done.filterMap Account.record? := hbooks.records ▸ hr
    obtain ⟨a, ha, hrecord⟩ := List.mem_filterMap.1 hr'
    obtain ⟨s, t, hs, ht, hurl, hends⟩ := hended a ha
    obtain rfl := Account.of_record? hrecord
    obtain ⟨htarget, page, harrival, hpage, hresult, hskip⟩ :=
      EndsAs.of_extracted ((hends (.extracted r.record)).2 rfl)
    rw [h] at htarget hpage
    exact ⟨htarget, s, t, page, hs, ht, hurl, harrival, hpage, hresult, hskip⟩

/-! ### A run over targets and others -/

/-- The URLs that hold an `a`. -/
def withLetterA : UrlRuleSet :=
  ⟨[⟨"a", .set (.single 'a')⟩], none, false⟩

/-- An extractor for the URLs that hold an `a`, whose factory fails when five events have been
reported. -/
def failingOnce (s : State Unit) (_ : Task) : Extractor Unit :=
  { anyPage with
    target := withLetterA
    factory := if s.events.length = 5 then .error (.record (.stated "full")) else .ok () }

/-- What comes of fetching where one URL leads away, one page is marked and one cannot be had. -/
def leadingAway (_ : State Unit) (t : Task) : Arrival :=
  if t.url = "a1" then .page ⟨"b", "", false⟩
  else if t.url = "a2" then .page ⟨"a", "", true⟩
  else if t.url = "a3" then .failed (.timeout 30)
  else .page ⟨"a", "", false⟩

/-- Of six URLs five are targets. One leads away, one is marked, and two fail, one of them where it is
worked on first but not where it is again. -/
theorem failingOnce_leadingAway :
  (∀ s t, (failingOnce s t).target = withLetterA) ∧
    ((Pool.ofVisits failingOnce leadingAway "a" 0).run .inOrder
      ["a1", "b", "a2", "a3", "a", "a"]).requests.Perm
      (["a1", "b", "a2", "a3", "a", "a"].filter withLetterA.isMatch) ∧
    ((Pool.ofVisits failingOnce leadingAway "a" 0).run .inOrder
      ["a1", "b", "a2", "a3", "a", "a"]).requests = ["a1", "a2", "a3", "a", "a"] ∧
    ((Pool.ofVisits failingOnce leadingAway "a" 0).run .inOrder
      ["a1", "b", "a2", "a3", "a", "a"]).stats = ⟨1, 1, 2, 2⟩
  := by
  have htarget : ∀ s t, (failingOnce s t).target = withLetterA := fun _ _ => rfl
  obtain ⟨started, _, -, hall, hperm, -⟩ := Pool.run_ofVisits failingOnce withLetterA htarget
    leadingAway "a" 0 .inOrder ["a1", "b", "a2", "a3", "a", "a"]
  rw [hall fun _ => rfl] at hperm
  exact ⟨htarget, hperm, by decide +kernel, by decide +kernel⟩

end PageModel.Pipeline
