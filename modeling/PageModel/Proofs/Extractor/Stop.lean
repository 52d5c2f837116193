import Mathlib.Tactic.Use
import PageModel.Proofs.Extractor.Effects

/-!
# Where a run stops

A run of an extractor on a page stops at one of five places: at once, if the URL of the page is no
target; at the factory; at the writer of a rule, when the rules before it have been applied; at the
hook, when all rules have been applied; or at the end, with a record (`Extractor.StopsAt`). Every run
stops somewhere (`Extractor.exists_stopsAt`), and where it stops determines both what comes of it and
the mark that it leaves on the page (`Extractor.tryApply_of_stopsAt`).
-/

namespace PageModel

variable {ρ α : Type}

/-! ### Places -/

/-- The relation of a rule with a record that its writer refuses on a page, and the error. -/
inductive FieldRule.Refuses (r : FieldRule ρ) (page : Page) (record : ρ) (e : Error) : Prop
  | text {w : Writing ρ (Option String)} {writer : ρ → Option String → Except Error ρ}
      (hsink : r.sink = .text w) (hwriter : w.writer = some writer)
      (hfails : writer record (r.selector.select (r.input page)) = .error e) :
      r.Refuses page record e
  | list {w : Writing ρ (List String)} {writer : ρ → List String → Except Error ρ}
      (hsink : r.sink = .list w) (hwriter : w.writer = some writer)
      (hfails : writer record (r.selector.selectAll (r.input page)) = .error e) :
      r.Refuses page record e

/-- The relation of an extractor and a page with a record to which some of the rules have been
applied: the page is a target, and what the factory gave became the record by the effects of these
rules. -/
def Extractor.Filled (x : Extractor ρ) (page : Page) (rules : List (FieldRule ρ)) (record : ρ) :
    Prop :=
  x.target.isMatch page.url = true ∧
    ∃ start, x.factory = .ok start ∧
      Becomes start (rules.flatMap (FieldRule.effects · page)) record

/-- A place where a run may stop, with the error if something fails there. For a writer these are
the rules before its own and the rule that it belongs to. -/
inductive Stop (ρ : Type) where
  | noTarget
  | factory (e : Error)
  | writer (before : List (FieldRule ρ)) (r : FieldRule ρ) (e : Error)
  | hook (e : Error)
  | finished (record : ρ)

/-- The relation of an extractor and a page with the place where the run stops. The hook looks at the
page with the mark that all rules leave on it. -/
inductive Extractor.StopsAt (x : Extractor ρ) (page : Page) : Stop ρ → Prop
  | noTarget (htarget : x.target.isMatch page.url = false) :
      x.StopsAt page .noTarget
  | factory {e : Error} (htarget : x.target.isMatch page.url = true)
      (hfactory : x.factory = .error e) :
      x.StopsAt page (.factory e)
  | writer {before after : List (FieldRule ρ)} {r : FieldRule ρ} {record : ρ} {e : Error}
      (hrules : x.rules = before ++ r :: after) (hfilled : x.Filled page before record)
      (hrefuses : r.Refuses page record e) :
      x.StopsAt page (.writer before r e)
  | hook {record : ρ} {hook : ρ → Page → Except Error ρ} {e : Error}
      (hfilled : x.Filled page x.rules record) (hhook : x.afterExtract = some hook)
      (hfails : hook record (page.markedBy x.rules) = .error e) :
      x.StopsAt page (.hook e)
  | finished {record record' : ρ} (hfilled : x.Filled page x.rules record)
      (hbecomes : Becomes record (x.hookEffects (page.markedBy x.rules)) record') :
      x.StopsAt page (.finished record')

namespace Stop

/-- What comes of a run that stops at a place. -/
def result : Stop ρ → Except Error (Option ρ)
  | .noTarget => .ok none
  | .factory e => .error e.ofFactory
  | .writer _ r e => .error (.fieldWrite r.name e.message)
  | .hook e => .error e.ofHook
  | .finished record => .ok (some record)

/-- The rules of an extractor that have been applied when a run stops at a place. -/
def applied (x : Extractor ρ) : Stop ρ → List (FieldRule ρ)
  | .noTarget => []
  | .factory _ => []
  | .writer before _ _ => before
  | .hook _ => x.rules
  | .finished _ => x.rules

end Stop

/-! ### Rules that are not refused -/

/-- Rules none of which is refused are all applied, and leave their mark. -/
theorem Becomes.applyRules_eq {record record' : ρ} {rules : List (FieldRule ρ)} {page : Page}
    (h : Becomes record (rules.flatMap (FieldRule.effects · page)) record') :
  ∃ calls, applyRules rules record page = (.ok record', page.markedBy rules, calls)
  := by
  have hresult : (applyRules rules record page).1 = .ok record' := by
    rw [← h.perform_eq, ← applyRules_eq_perform]
  use (applyRules rules record page).2.2
  rw [← hresult, ← applyRules_page hresult]

/-! ### Rules that are refused -/

theorem Writing.write_of_fails {w : Writing ρ α} {writer : ρ → α → Except Error ρ}
    (hwriter : w.writer = some writer) {record : ρ} {value : α} {e : Error}
    (hfails : writer record value = .error e) (field : String) (wrap : α → FieldValue) :
  (w.write field wrap record value).1 = .error (.fieldWrite field e.message)
  := by
  simp only [Writing.write, hwriter, hfails]

/-- Writing a value fails at the writer or not at all. -/
theorem Writing.becomes_or_fails (w : Writing ρ α) (field : String) (wrap : α → FieldValue)
    (record : ρ) (value : α) :
  (∃ record', Becomes record (w.effects field wrap value) record') ∨
    ∃ writer e, w.writer = some writer ∧ writer record value = .error e
  := by
  unfold Writing.effects
  cases hwriter : w.writer with
  | none =>
      left
      use w.assign record value
      apply Becomes.cons rfl (Becomes.nil _)
  | some writer =>
      cases hwrites : writer record value with
      | error e =>
          right
          use writer, e, rfl, hwrites
      | ok record' =>
          left
          use w.assign record' value
          have hfirst : (writer record value).mapError (fun e => Error.fieldWrite field e.message)
              = .ok record' := by
            rw [hwrites]
            rfl
          apply Becomes.cons hfirst
          apply Becomes.cons rfl (Becomes.nil _)

/-- A rule that is refused fails under the name of its field. -/
theorem FieldRule.Refuses.write_eq {r : FieldRule ρ} {page : Page} {record : ρ} {e : Error}
    (h : r.Refuses page record e) :
  (r.write record page).1 = .error (.fieldWrite r.name e.message)
  := by
  cases h with
  | text hsink hwriter hfails =>
      rw [FieldRule.write, hsink]
      apply Writing.write_of_fails hwriter hfails
  | list hsink hwriter hfails =>
      rw [FieldRule.write, hsink]
      apply Writing.write_of_fails hwriter hfails

/-- A rule is applied to a record or refused. -/
theorem FieldRule.becomes_or_refuses (r : FieldRule ρ) (page : Page) (record : ρ) :
  (∃ record', Becomes record (r.effects page) record') ∨ ∃ e, r.Refuses page record e
  := by
  unfold FieldRule.effects
  cases hsink : r.sink with
  | text w =>
      rcases w.becomes_or_fails r.name .text record (r.selector.select (r.input page)) with
        hbecomes | ⟨writer, e, hwriter, hfails⟩
      · exact .inl hbecomes
      · exact .inr ⟨e, .text hsink hwriter hfails⟩
  | list w =>
      rcases w.becomes_or_fails r.name .list record (r.selector.selectAll (r.input page)) with
        hbecomes | ⟨writer, e, hwriter, hfails⟩
      · exact .inl hbecomes
      · exact .inr ⟨e, .list hsink hwriter hfails⟩

/-- Rules are all applied to a record, or those before the first that is refused. -/
theorem becomes_or_refuses (rules : List (FieldRule ρ)) (page : Page) (record : ρ) :
  (∃ record', Becomes record (rules.flatMap (FieldRule.effects · page)) record') ∨
    ∃ before r after record' e, rules = before ++ r :: after ∧
      Becomes record (before.flatMap (FieldRule.effects · page)) record' ∧
      r.Refuses page record' e
  := by
  induction rules generalizing record with
  | nil => exact .inl ⟨record, .nil record⟩
  | cons r rules ih =>
      rcases r.becomes_or_refuses page record with ⟨record', hr⟩ | ⟨e, hrefuses⟩
      · rcases ih record' with
          ⟨record'', hbecomes⟩ | ⟨before, r', after, record'', e, rfl, hbecomes, hrefuses⟩
        · left
          use record'', hr.append hbecomes
        · right
          use r :: before, r', after, record'', e, rfl, hr.append hbecomes, hrefuses
      · right
        use [], r, rules, record, e, rfl, .nil record, hrefuses

/-- A rule is refused whatever the mark on the page. -/
theorem FieldRule.Refuses.skippedIf {r : FieldRule ρ} {page : Page} {record : ρ} {e : Error}
    (h : r.Refuses page record e) (missing : Bool) :
  r.Refuses (page.skippedIf missing) record e
  := by
  have hinput := r.input_skippedIf page missing
  cases h with
  | text hsink hwriter hfails =>
      apply Refuses.text hsink hwriter
      rw [hinput, hfails]
  | list hsink hwriter hfails =>
      apply Refuses.list hsink hwriter
      rw [hinput, hfails]

theorem applyRules_append {before : List (FieldRule ρ)} {record record' : ρ} {page page' : Page}
    {calls : List Call} (h : applyRules before record page = (.ok record', page', calls))
    (rules : List (FieldRule ρ)) :
  (applyRules (before ++ rules) record page).1 = (applyRules rules record' page').1 ∧
    (applyRules (before ++ rules) record page).2.1 = (applyRules rules record' page').2.1
  := by
  induction before generalizing record page calls with
  | nil =>
      simp only [applyRules, Prod.mk.injEq, Except.ok.injEq] at h
      obtain ⟨rfl, rfl, -⟩ := h
      exact ⟨rfl, rfl⟩
  | cons r before ih =>
      rw [applyRules] at h
      rw [List.cons_append, applyRules]
      generalize r.write record page = written at h ⊢
      rcases written with ⟨e | record'', first⟩
      · cases h
      · simp only [Prod.mk.injEq] at h
        obtain ⟨hresult, hpage, -⟩ := h
        have hbefore : applyRules before record'' (page.skippedIf (r.lacks page))
            = (.ok record', page',
                (applyRules before record'' (page.skippedIf (r.lacks page))).2.2) := by
          rw [← hresult, ← hpage]
        apply ih hbefore

/-- A rule whose value cannot be written ends the application of rules. -/
theorem applyRules_of_write_fails {r : FieldRule ρ} {record : ρ} {page : Page} {e : Error}
    (h : (r.write record page).1 = .error e) (rules : List (FieldRule ρ)) :
  (applyRules (r :: rules) record page).1 = .error e ∧
    (applyRules (r :: rules) record page).2.1 = page
  := by
  rw [applyRules]
  generalize r.write record page = written at h ⊢
  rcases written with ⟨result, calls⟩
  simp only at h
  rw [h]
  exact ⟨rfl, rfl⟩

/-- A rule that is refused ends the application of rules, with the mark of those before it. -/
theorem FieldRule.Refuses.applyRules_eq {r : FieldRule ρ} {page : Page} {record record' : ρ}
    {e : Error} (h : r.Refuses page record' e) {before : List (FieldRule ρ)}
    (hbefore : Becomes record (before.flatMap (FieldRule.effects · page)) record')
    (after : List (FieldRule ρ)) :
  (applyRules (before ++ r :: after) record page).1 = .error (.fieldWrite r.name e.message) ∧
    (applyRules (before ++ r :: after) record page).2.1 = page.markedBy before
  := by
  obtain ⟨calls, hcalls⟩ := hbefore.applyRules_eq
  obtain ⟨hresult, hpage⟩ := applyRules_append hcalls (r :: after)
  rw [hresult, hpage]
  apply applyRules_of_write_fails
  apply (h.skippedIf _).write_eq

/-! ### Runs -/

namespace Extractor

variable {x : Extractor ρ} {page : Page}

/-- A page whose URL is no target is left alone. -/
theorem tryApply_of_noTarget (htarget : x.target.isMatch page.url = false) :
  x.tryApply page = (.ok none, page)
  := by
  simp [tryApply, run, htarget]

theorem tryApply_of_filled {record : ρ} (h : x.Filled page x.rules record) :
  x.tryApply page
    = ((x.finish record (page.markedBy x.rules)).1.map some, page.markedBy x.rules)
  := by
  obtain ⟨htarget, start, hfactory, hbecomes⟩ := h
  obtain ⟨calls, happly⟩ := hbecomes.applyRules_eq
  simp only [tryApply, run, htarget, hfactory, happly, if_true]

theorem tryApply_of_rules_fail (htarget : x.target.isMatch page.url = true) {start : ρ}
    (hfactory : x.factory = .ok start) {e : Error}
    (hfails : (applyRules x.rules start page).1 = .error e) :
  x.tryApply page = (.error e, (applyRules x.rules start page).2.1)
  := by
  simp only [tryApply, run, htarget, hfactory, if_true]
  generalize applyRules x.rules start page = ended at hfails ⊢
  rcases ended with ⟨result, page', calls⟩
  obtain rfl : result = .error e := hfails
  rfl

/-- Where a run stops determines what comes of it, and the mark on the page: it is that of the rules
which have been applied. -/
theorem tryApply_of_stopsAt {stop : Stop ρ} (h : x.StopsAt page stop) :
  x.tryApply page = (stop.result, page.markedBy (stop.applied x))
  := by
  cases h with
  | noTarget htarget => simp [tryApply, run, htarget, Stop.result, Stop.applied]
  | factory htarget hfactory =>
      simp [tryApply, run, htarget, hfactory, Stop.result, Stop.applied]
  | @writer before after r record e hrules hfilled hrefuses =>
      obtain ⟨htarget, start, hfactory, hbecomes⟩ := hfilled
      obtain ⟨hresult, hpage⟩ := hrefuses.applyRules_eq hbecomes after
      rw [← hrules] at hresult hpage
      rw [tryApply_of_rules_fail htarget hfactory hresult, hpage]
      rfl
  | hook hfilled hhook hfails =>
      rw [tryApply_of_filled hfilled, finish, hhook]
      simp only [hfails]
      rfl
  | finished hfilled hbecomes =>
      rw [tryApply_of_filled hfilled, finish_eq_perform, hbecomes.perform_eq]
      rfl

/-- When all rules have been applied, a run stops at the hook or at the end. -/
theorem Filled.exists_stopsAt {record : ρ} (h : x.Filled page x.rules record) :
  ∃ stop, x.StopsAt page stop
  := by
  cases hhook : x.afterExtract with
  | none =>
      use .finished record
      apply StopsAt.finished h
      rw [hookEffects, hhook]
      apply Becomes.nil
  | some hook =>
      cases hends : hook record (page.markedBy x.rules) with
      | error e =>
          use .hook e
          apply StopsAt.hook h hhook hends
      | ok record' =>
          have hlast : (hook record (page.markedBy x.rules)).mapError Error.ofHook
              = .ok record' := by
            rw [hends]
            rfl
          use .finished record'
          apply StopsAt.finished h
          rw [hookEffects, hhook]
          apply Becomes.cons hlast (Becomes.nil _)

/-- Every run stops somewhere. -/
theorem exists_stopsAt (x : Extractor ρ) (page : Page) :
  ∃ stop, x.StopsAt page stop
  := by
  cases htarget : x.target.isMatch page.url with
  | false => exact ⟨_, .noTarget htarget⟩
  | true =>
      cases hfactory : x.factory with
      | error e => exact ⟨_, .factory htarget hfactory⟩
      | ok start =>
          rcases becomes_or_refuses x.rules page start with
            ⟨record, hbecomes⟩ | ⟨before, r, after, record, e, hrules, hbecomes, hrefuses⟩
          · apply Filled.exists_stopsAt ⟨htarget, start, hfactory, hbecomes⟩
          · use .writer before r e
            apply StopsAt.writer hrules ⟨htarget, start, hfactory, hbecomes⟩ hrefuses

/-- A run that has a record leaves the mark of what the rules lack. -/
theorem page_run {record : ρ} (h : (x.run page).result = .ok (some record)) :
  (x.run page).page = page.markedBy x.rules
  := by
  obtain ⟨stop, hstop⟩ := x.exists_stopsAt page
  have htry := tryApply_of_stopsAt hstop
  have hstopped : stop.result = .ok (some record) := (congrArg Prod.fst htry).symm.trans h
  apply (congrArg Prod.snd htry).trans
  cases stop <;> cases hstopped
  rfl

end Extractor

end PageModel
