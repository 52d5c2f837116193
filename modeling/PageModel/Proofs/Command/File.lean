import PageModel.Command.Run
import PageModel.Proofs.Pipeline.Fetching
import PageModel.Proofs.Record.History

/-!
# Pages from files and pages that are fetched

A page whose text is in a file comes to the same as a page that is fetched: both are classified by one
run of the extractor (`extractPage_eq`, `Pipeline.run_single`), although before a page is fetched the
URL is looked at as well (`Pipeline.accountOf_page`). What is written about a page from a file tells how
it was classified, because the line for a record tells the record (`recordLine_inj`).
-/

namespace PageModel

open Json Pipeline Command

variable {ρ : Type}

/-! ### A run over one URL -/

namespace Pipeline

/-- A run over one URL that is not cancelled has the account of the URL and no other. -/
theorem run_single (c : Setup ρ) {σ : Schedule ρ} (hσ : ∀ s, σ.cancels s = false) (url : String) :
  (run c σ [url]).events =
      [.started c.extractor.name 1, (accountOf c.extractor c.fetch url).event,
        .finished (run c σ [url]).stats] ∧
    (run c σ [url]).stats = tally [(accountOf c.extractor c.fetch url).event] ∧
    (run c σ [url]).records = (accountOf c.extractor c.fetch url).record?.toList
  := by
  have hreached := reached_end c.pool σ [url]
  obtain ⟨done, hbooks⟩ := hreached.books
  obtain ⟨started, -, hall, hperm⟩ := hbooks.loop
  rw [hall (hreached.cancelled_eq_false hσ)] at hperm
  obtain ⟨a, rfl, hurl⟩ := List.map_eq_singleton_iff.1 (List.perm_singleton.1 hperm)
  have haccount : a = accountOf c.extractor c.fetch url := by
    obtain ⟨s, t, -, -, rfl⟩ := hbooks.source a List.mem_cons_self
    obtain rfl : t.url = url := hurl
    rfl
  have hrecords : (run c σ [url]).records = [a].filterMap Account.record? := hbooks.records
  rw [← haccount]
  refine ⟨hbooks.events_run, hbooks.stats_run, ?_⟩
  rw [hrecords]
  cases h : a.record? <;> simp [h]

/-- What is counted for one account. -/
theorem tally_singleton (a : Account ρ) :
  tally [a.event] =
    match a.outcome with
    | .extracted _ => { extracted := 1 }
    | .skipped => { skipped := 1 }
    | .rejected => { rejected := 1 }
    | .failed _ => { failed := 1 }
  := by
  rcases a with ⟨url, _ | _ | _ | _⟩ <;> rfl

/-- Where the page of a URL has that URL, it is classified by what the extractor makes of it: a page
that would not be asked for is no target either. -/
theorem accountOf_page (x : Extractor ρ) {fetch : String → Arrival} (page : Page)
    (h : fetch page.url = .page page) :
  accountOf x fetch page.url = ⟨page.url, classify x page⟩
  := by
  rw [accountOf, work, h]
  cases htarget : x.target.isMatch page.url with
  | true => rfl
  | false =>
      rw [classify, Extractor.tryApply_of_noTarget htarget]
      rfl

end Pipeline

/-! ### What is written about a page -/

/-- What is written about a page that is classified. -/
def Pipeline.Outcome.written (url : String) : Outcome Record → Written
  | .extracted record => { output := recordLine url record }
  | .skipped => {}
  | .rejected => {}
  | .failed e => { failure := some (.extraction e) }

theorem extractPage_eq (x : Extractor Record) (page : Page) :
  extractPage x page = (classify x page).written page.url
  := by
  unfold extractPage classify
  rcases x.tryApply page with ⟨e | _ | record, after⟩
  · rfl
  · rfl
  · cases hskip : after.skip <;> simp [hskip, Outcome.written]

theorem toList_recordLine (url : String) (record : Record) :
  (recordLine url record).toList =
    (Value.object [("record", record.toValue), ("url", .string url)]).chars ++ ['\n']
  := by
  rw [recordLine, Value.text, String.toList_append, String.toList_ofList]
  rfl

theorem recordLine_ne_empty (url : String) (record : Record) :
  recordLine url record ≠ ""
  := by
  intro h
  have htext := toList_recordLine url record
  rw [h, object_chars_append] at htext
  cases htext

/-- The line for a record without numbers tells the record and the URL. -/
theorem recordLine_inj {url url' : String} {record record' : Record} {depth : Nat}
    (h : Plain depth record.toValue) (hline : recordLine url record = recordLine url' record') :
  url = url' ∧ record = record'
  := by
  have hplain : Plain (depth + 1) (.object [("record", record.toValue), ("url", .string url)]) := by
    have hnames : "record" < "url" := by decide
    have hordered : Ordered [("record", record.toValue), ("url", .string url)] :=
      List.pairwise_pair.2 hnames
    apply Plain.object hordered
    simp [h, Plain.string]
  have hchars := toList_recordLine url record
  rw [hline, toList_recordLine] at hchars
  obtain ⟨hobject, -⟩ := hplain.isLegible _ _ _ hchars.symm
  obtain ⟨values, hordered⟩ := record
  obtain ⟨values', hordered'⟩ := record'
  simp only [Value.object.injEq, List.cons.injEq, Prod.mk.injEq, true_and, and_true,
    Value.string.injEq, Record.toValue] at hobject
  obtain ⟨rfl, rfl⟩ := hobject
  exact ⟨rfl, rfl⟩

/-! ### Records of models -/

/-- The record that a model makes of a page has no numbers. -/
theorem ModelSpec.plain_of_tryApply {m : ModelSpec} {x : Extractor Record} (h : m.compile = .ok x)
    {page : Page} {record : Record} (hrun : (x.tryApply page).1 = .ok (some record)) :
  Plain 2 record.toValue
  := by
  have htarget : x.target.isMatch page.url = true := by
    apply Bool.eq_true_of_not_eq_false
    intro hno
    rw [(tryApply_eq_ok_none_iff x page).2 hno] at hrun
    cases hrun
  obtain ⟨record', happly, hfields⟩ := ModelSpec.tryApply_of_target h htarget
  rw [happly] at hrun
  cases hrun
  apply Record.plain_toValue
  intro field v hv
  obtain ⟨hnone, hsome⟩ := hfields field
  cases hlookup : m.rules.reverse.lookup field with
  | none =>
      rw [hnone hlookup] at hv
      cases hv
  | some spec =>
      obtain ⟨value, -, hvalue⟩ := hsome spec hlookup
      rw [hvalue] at hv
      cases hv
      apply plain_toJson

/-! ### Agreement -/

/-- Extracting a record from a file and running over the one URL with a fetcher that gives the text of
the file come to the same. The line for a record of a model is written if and only if the run has that
record for the URL and no other. Nothing is written, because the URL is no target, if and only if the
run counts it as rejected, and because the page is marked, if and only if it counts it as skipped. An
error is reported if and only if the run counts a failure with that error. -/
theorem extractFile_agrees_with_run {μ : Type → Type} [Monad μ] [LawfulMonad μ]
    (x : Extractor Record) (url html : String) (files : Files.Access μ) (path : String)
    (hfile : files.readText path = pure (.ok html)) (fetch : String → Arrival)
    (hfetch : fetch url = .page ⟨url, html, false⟩) (c : Nat) (σ : Schedule Record)
    (hσ : ∀ s, σ.cancels s = false) :
  ∃ w, extractFile x files [url] path = pure w ∧
    (∀ m : ModelSpec, m.compile = .ok x → ∀ record,
      w.output = recordLine url record ↔
        (Pipeline.run ⟨x, fetch, c⟩ σ [url]).records = [⟨url, record⟩]) ∧
    (w.output = "" ∧ w.failure = none ∧ x.target.isMatch url = false ↔
      (Pipeline.run ⟨x, fetch, c⟩ σ [url]).stats = { rejected := 1 }) ∧
    (w.output = "" ∧ w.failure = none ∧ (x.tryApply ⟨url, html, false⟩).2.skip = true ↔
      (Pipeline.run ⟨x, fetch, c⟩ σ [url]).stats = { skipped := 1 }) ∧
    ∀ e, w.failure = some (.extraction e) ↔
      (Pipeline.run ⟨x, fetch, c⟩ σ [url]).stats = { failed := 1 } ∧
        .failed url e ∈ (Pipeline.run ⟨x, fetch, c⟩ σ [url]).events
  := by
  obtain ⟨hevents, hstats, hrecords⟩ := run_single ⟨x, fetch, c⟩ hσ url
  have haccount : accountOf x fetch url = ⟨url, classify x ⟨url, html, false⟩⟩ :=
    accountOf_page x ⟨url, html, false⟩ hfetch
  have hends : EndsAs x (fetch url) url (accountOf x fetch url).outcome := endsAs_work x _ url
  rw [haccount] at hevents hstats hrecords hends
  rw [hfetch] at hends
  use (classify x ⟨url, html, false⟩).written url
  constructor
  · rw [extractFile, hfile, pure_bind]
    exact congrArg pure (extractPage_eq x _)
  -- What the URL ends as decides on both sides of each equivalence.
  rw [hevents, hstats, hrecords, tally_singleton]
  generalize classify x ⟨url, html, false⟩ = o at hends ⊢
  cases hends with
  | noTarget hurl =>
      have htry : x.tryApply ⟨url, html, false⟩ = (.ok none, ⟨url, html, false⟩) :=
        Extractor.tryApply_of_noTarget hurl
      simp [Outcome.written, Account.record?, Account.event, hurl, htry,
        (recordLine_ne_empty _ _).symm]
  | notFetched hurl ha => cases ha
  | crashed hurl ha => cases ha
  | redirected hurl ha hpage =>
      cases ha
      cases hurl.symm.trans hpage
  | @notExtracted _ e hurl ha hpage hresult =>
      cases ha
      refine ⟨?_, ?_, ?_, ?_⟩
      · simp [Outcome.written, Account.record?, (recordLine_ne_empty _ _).symm]
      · simp [Outcome.written]
      · simp [Outcome.written]
      · intro e'
        constructor
        · rintro ⟨⟩
          simp [Account.event]
        · rintro ⟨-, hevent⟩
          obtain rfl : e' = e := by simpa [Account.event] using hevent
          rfl
  | skipped hurl ha hpage hresult hskip =>
      cases ha
      simp [Outcome.written, Account.record?, Account.event, hurl, hskip,
        (recordLine_ne_empty _ _).symm]
  | @extracted _ record hurl ha hpage hresult hskip =>
      cases ha
      refine ⟨?_, ?_, ?_, ?_⟩
      · intro m hm record'
        constructor
        · intro hline
          obtain ⟨-, rfl⟩ := recordLine_inj (ModelSpec.plain_of_tryApply hm hresult) hline
          rfl
        · rintro ⟨⟩
          rfl
      · simp [Outcome.written, hurl]
      · simp [Outcome.written, hskip]
      · simp [Outcome.written]

/-- A model whose records hold the URL of their page. -/
def located : ModelSpec where
  name := "location"
  targetUrl := some ⟨["http://site/*"], none⟩
  helpUrl := none
  fields := [⟨"address", "string", none, some ⟨"", true, false⟩⟩]

/-- The run has a record for a URL of the site, and so the line for it is written. -/
theorem located_extractFile :
  ∃ x record w, located.compile = .ok x ∧
    (Pipeline.run ⟨x, fun url => .page ⟨url, "<p>", false⟩, 1⟩ .inOrder ["http://site/7"]).records
      = [⟨"http://site/7", record⟩] ∧
    extractFile (m := Id) x ⟨fun _ => true, fun _ => .ok "<p>"⟩ ["http://site/7"] "page" = pure w ∧
    w.output = recordLine "http://site/7" record
  := by
  have hurls : located.compile.map (fun x => (Pipeline.run
      ⟨x, fun url => .page ⟨url, "<p>", false⟩, 1⟩ .inOrder ["http://site/7"]).records.map (·.url))
      = .ok ["http://site/7"] := by
    decide +kernel
  obtain ⟨x, hx, hurls⟩ := exists_of_map_eq_ok hurls
  obtain ⟨⟨_, record⟩, hrecords, rfl⟩ := List.map_eq_singleton_iff.1 hurls
  obtain ⟨w, hfile, hline, -⟩ := extractFile_agrees_with_run (μ := Id) x "http://site/7" "<p>"
    ⟨fun _ => true, fun _ => .ok "<p>"⟩ "page" rfl (fun url => .page ⟨url, "<p>", false⟩) rfl 1
    .inOrder fun _ => rfl
  exact ⟨x, record, w, hx, hrecords, hfile, (hline located hx record).2 hrecords⟩

end PageModel
