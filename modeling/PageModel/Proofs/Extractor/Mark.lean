import PageModel.Proofs.Extractor.Stop

/-!
# The mark on a page

All that a run changes on a page is its mark, and it only ever sets it: what was marked stays marked,
and the rules which have been applied when the run stops add what they lack
(`Extractor.tryApply_marks`). A run on a page that has been marked by a run of the same extractor
stops at the same place, although the hook looks at the mark: when it does, the mark of the run itself
is there anyway (`Extractor.StopsAt.markedBy`). So running an extractor again and again on one page
comes to the same each time (`Extractor.outcomes_eq_replicate`).
-/

namespace PageModel

variable {ρ : Type} {x : Extractor ρ} {page : Page}

/-! ### Runs of any extractors -/

/-- A page after runs of extractors one after the other. An extractor whose code keeps a state of its
own counts as another extractor in each run. -/
def Page.afterRuns (page : Page) (xs : List ((σ : Type) × Extractor σ)) : Page :=
  xs.foldl (fun page x => (x.2.tryApply page).2) page

theorem Page.afterRuns_append (page : Page) (xs ys : List ((σ : Type) × Extractor σ)) :
  page.afterRuns (xs ++ ys) = (page.afterRuns xs).afterRuns ys
  := List.foldl_append

/-- A run may set the mark on a page and does nothing else to it. -/
theorem Extractor.exists_skippedIf (x : Extractor ρ) (page : Page) :
  ∃ missing, (x.tryApply page).2 = page.skippedIf missing
  := by
  obtain ⟨stop, hstop⟩ := x.exists_stopsAt page
  rw [tryApply_of_stopsAt hstop]
  exact ⟨_, rfl⟩

/-- Runs may set the mark on a page and do nothing else to it. -/
theorem Page.exists_skippedIf (page : Page) (xs : List ((σ : Type) × Extractor σ)) :
  ∃ missing, page.afterRuns xs = page.skippedIf missing
  := by
  induction xs generalizing page with
  | nil =>
      use false
      rw [page.skippedIf_false]
      rfl
  | cons x xs ih =>
      obtain ⟨missing, hfirst⟩ := x.2.exists_skippedIf page
      obtain ⟨missing', hrest⟩ := ih (page.skippedIf missing)
      use missing || missing'
      rw [Page.afterRuns, List.foldl_cons, hfirst, ← page.skippedIf_skippedIf]
      apply hrest

/-- A run changes nothing on a page but its mark. If the URL is no target, or the factory fails, the
mark stays as it was. If there is a record, or the hook fails, the page is marked that was marked
before or lacks what one of the rules requires. If the writer of a rule fails, only the rules before it
count, whatever its own rule selects. One of these is the case. Hence runs of any extractors one after
the other never take a mark off a page. -/
theorem Extractor.tryApply_marks (x : Extractor ρ) (page : Page) :
  (x.apply page).2 = (x.tryApply page).2 ∧
    (x.tryApply page).2.url = page.url ∧
    (x.tryApply page).2.html = page.html ∧
    (x.target.isMatch page.url = false → (x.tryApply page).2.skip = page.skip) ∧
    (∀ e, x.StopsAt page (.factory e) → (x.tryApply page).2.skip = page.skip) ∧
    (∀ before r e, x.StopsAt page (.writer before r e) →
      (x.tryApply page).2.skip = (page.skip || before.any fun r => r.lacks page)) ∧
    (∀ e, x.StopsAt page (.hook e) →
      (x.tryApply page).2.skip = (page.skip || x.rules.any fun r => r.lacks page)) ∧
    (∀ record, (x.tryApply page).1 = .ok (some record) →
      (x.tryApply page).2.skip = (page.skip || x.rules.any fun r => r.lacks page)) ∧
    (∃ stop, x.StopsAt page stop ∧ (x.tryApply page).1 = stop.result) ∧
    ∀ runs later : List ((σ : Type) × Extractor σ),
      (page.afterRuns runs).url = page.url ∧ (page.afterRuns runs).html = page.html ∧
        ((page.afterRuns runs).skip = true → (page.afterRuns (runs ++ later)).skip = true)
  := by
  obtain ⟨stop, hstop⟩ := x.exists_stopsAt page
  have hpage {stop : Stop ρ} (h : x.StopsAt page stop) :
      (x.tryApply page).2 = page.markedBy (stop.applied x) := by
    rw [tryApply_of_stopsAt h]
  refine ⟨rfl, ?_, ?_, ?_, ?_, ?_, ?_, ?_, ?_, ?_⟩
  · rw [hpage hstop, Page.markedBy_url]
  · rw [hpage hstop, Page.markedBy_html]
  · intro htarget
    rw [hpage (.noTarget htarget), Stop.applied, Page.markedBy_nil]
  · intro e h
    rw [hpage h, Stop.applied, Page.markedBy_nil]
  · intro before r e h
    rw [hpage h, Stop.applied, Page.markedBy_skip]
  · intro e h
    rw [hpage h, Stop.applied, Page.markedBy_skip]
  · intro record hrecord
    have hmarked : (x.tryApply page).2 = page.markedBy x.rules := page_run hrecord
    rw [hmarked, Page.markedBy_skip]
  · use stop, hstop
    rw [tryApply_of_stopsAt hstop]
  · intro runs later
    obtain ⟨missing, hruns⟩ := page.exists_skippedIf runs
    obtain ⟨missing', hlater⟩ := (page.afterRuns runs).exists_skippedIf later
    refine ⟨?_, ?_, ?_⟩
    · rw [hruns, Page.skippedIf_url]
    · rw [hruns, Page.skippedIf_html]
    · intro hskip
      rw [Page.afterRuns_append, hlater, Page.skippedIf_skip, hskip, Bool.true_or]

/-! ### Runs of one extractor -/

/-- The records that rules fill do not depend on the mark. -/
theorem Extractor.Filled.markedBy {rules : List (FieldRule ρ)} {record : ρ}
    (h : x.Filled page rules record) (applied : List (FieldRule ρ)) :
  x.Filled (page.markedBy applied) rules record
  := by
  obtain ⟨htarget, start, hfactory, hbecomes⟩ := h
  use htarget, start, hfactory
  simpa only [Page.markedBy, FieldRule.effects_skippedIf] using hbecomes

/-- On a page with the mark that a run leaves, a run of the same extractor stops at the same place. -/
theorem Extractor.StopsAt.markedBy {stop : Stop ρ} (h : x.StopsAt page stop) :
  x.StopsAt (page.markedBy (stop.applied x)) stop
  := by
  cases h with
  | noTarget htarget =>
      rw [Stop.applied, Page.markedBy_nil]
      apply StopsAt.noTarget htarget
  | factory htarget hfactory =>
      rw [Stop.applied, Page.markedBy_nil]
      apply StopsAt.factory htarget hfactory
  | writer hrules hfilled hrefuses =>
      apply StopsAt.writer hrules (hfilled.markedBy _) (hrefuses.skippedIf _)
  -- The hook looks at the page marked twice by the same rules, which is the page marked once.
  | hook hfilled hhook hfails =>
      apply StopsAt.hook (hfilled.markedBy _) hhook
      rw [Stop.applied, Page.markedBy_markedBy]
      apply hfails
  | finished hfilled hbecomes =>
      apply StopsAt.finished (hfilled.markedBy _)
      rw [Stop.applied, Page.markedBy_markedBy]
      apply hbecomes

/-- A run on a page that the same extractor has been run on comes to the same. -/
theorem Extractor.tryApply_tryApply (x : Extractor ρ) (page : Page) :
  x.tryApply (x.tryApply page).2 = x.tryApply page
  := by
  obtain ⟨stop, hstop⟩ := x.exists_stopsAt page
  rw [tryApply_of_stopsAt hstop, tryApply_of_stopsAt hstop.markedBy, Page.markedBy_markedBy]

/-- What runs of an extractor on one and the same page come to, each with the page as it leaves it. -/
def Extractor.outcomes (x : Extractor ρ) : Nat → Page → List (Except Error (Option ρ) × Page)
  | 0, _ => []
  | n + 1, page => x.tryApply page :: x.outcomes n (x.tryApply page).2

/-- All runs of an extractor on one and the same page come to what the first comes to, and leave the
page as the first leaves it, although the hook of a later run looks at the mark that the first one may
have set. -/
theorem Extractor.outcomes_eq_replicate (x : Extractor ρ) (n : Nat) (page : Page) :
  x.outcomes n page = List.replicate n (x.tryApply page)
  := by
  induction n generalizing page with
  | zero => rfl
  | succ n ih => rw [outcomes, ih, tryApply_tryApply, List.replicate_succ]

end PageModel
