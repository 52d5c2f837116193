import Mathlib.Tactic.Use
import PageModel.Extractor

/-!
# The effects of a run

A run on a page whose URL is a target starts a record and then performs the effects of the
extractor: for each rule the writer of the field, if it has one, and the assignment, with one and the
same value, and after all rules the hook of the schema. The effects are performed in their order up
to the first that fails (`perform`). That the rules mark the page on the way changes nothing of this,
since neither what they select nor what they lack depends on the mark.
-/

namespace PageModel

variable {ρ α : Type}

/-! ### Effects -/

/-- An effect on a record: the call that is made, and what it makes of the record. -/
structure Effect (ρ : Type) where
  call : Call
  apply : ρ → Except Error ρ

/-- The effects of writing a value into a field. -/
def Writing.effects (w : Writing ρ α) (field : String) (wrap : α → FieldValue) (value : α) :
    List (Effect ρ) :=
  (w.writer.toList.map fun writer =>
    ⟨.writer field (wrap value),
      fun record => (writer record value).mapError fun e => .fieldWrite field e.message⟩)
    ++ [⟨.assign field (wrap value), fun record => .ok (w.assign record value)⟩]

/-- The effects of a rule on a page. -/
def FieldRule.effects (r : FieldRule ρ) (page : Page) : List (Effect ρ) :=
  match r.sink with
  | .text w => w.effects r.name .text (r.selector.select (r.input page))
  | .list w => w.effects r.name .list (r.selector.selectAll (r.input page))

/-- A page with the mark that rules leave on it. -/
def Page.markedBy (page : Page) (rules : List (FieldRule ρ)) : Page :=
  page.skippedIf (rules.any fun r => r.lacks page)

/-- The effect of the schema's own code at the end, which sees the page as the rules leave it. -/
def Extractor.hookEffects (x : Extractor ρ) (page : Page) : List (Effect ρ) :=
  x.afterExtract.toList.map fun hook =>
    ⟨.hook, fun record => (hook record page).mapError Error.ofHook⟩

/-- The effects of an extractor on a page. -/
def Extractor.effects (x : Extractor ρ) (page : Page) : List (Effect ρ) :=
  x.rules.flatMap (FieldRule.effects · page) ++ x.hookEffects (page.markedBy x.rules)

/-! ### Performing effects -/

/-- What comes of effects on a record, up to the first that fails, and the calls that are made. -/
def perform : List (Effect ρ) → ρ → Except Error ρ × List Call
  | [], record => (.ok record, [])
  | effect :: effects, record =>
      match effect.apply record with
      | .error e => (.error e, [effect.call])
      | .ok record =>
          let (result, calls) := perform effects record
          (result, effect.call :: calls)

/-- The relation of a record with what it becomes by effects none of which fails. -/
inductive Becomes : ρ → List (Effect ρ) → ρ → Prop
  | nil (record : ρ) : Becomes record [] record
  | cons {record record' record'' : ρ} {effect : Effect ρ} {effects : List (Effect ρ)} :
      effect.apply record = .ok record' → Becomes record' effects record'' →
      Becomes record (effect :: effects) record''

theorem Becomes.append {record record' record'' : ρ} {effects effects' : List (Effect ρ)}
    (h : Becomes record effects record') (h' : Becomes record' effects' record'') :
  Becomes record (effects ++ effects') record''
  := by
  induction h with
  | nil => exact h'
  | cons happly _ ih => apply Becomes.cons happly (ih h')

theorem Becomes.perform_eq {record record' : ρ} {effects : List (Effect ρ)}
    (h : Becomes record effects record') :
  (perform effects record).1 = .ok record'
  := by
  induction h with
  | nil => rfl
  | cons happly _ ih =>
      rw [perform, happly]
      apply ih

theorem perform_append (effects effects' : List (Effect ρ)) (record : ρ) :
  perform (effects ++ effects') record =
    match perform effects record with
    | (.error e, calls) => (.error e, calls)
    | (.ok record, calls) => ((perform effects' record).1, calls ++ (perform effects' record).2)
  := by
  induction effects generalizing record with
  | nil => rfl
  | cons effect effects ih =>
      rw [List.cons_append, perform, perform]
      cases effect.apply record with
      | error e => rfl
      | ok record' =>
          simp only [ih]
          rcases perform effects record' with ⟨_ | _, calls⟩ <;> rfl

/-- Either no effect fails, or the effects are performed up to the one that does. -/
theorem perform_cases (effects : List (Effect ρ)) (record : ρ) :
  (∃ record', Becomes record effects record' ∧
    perform effects record = (.ok record', effects.map Effect.call)) ∨
  (∃ before last after record' e, effects = before ++ last :: after ∧
    Becomes record before record' ∧ last.apply record' = .error e ∧
    perform effects record = (.error e, (before ++ [last]).map Effect.call))
  := by
  induction effects generalizing record with
  | nil => exact .inl ⟨record, .nil record, rfl⟩
  | cons effect effects ih =>
      rw [perform]
      cases happly : effect.apply record with
      | error e => exact .inr ⟨[], effect, effects, record, e, rfl, .nil record, happly, rfl⟩
      | ok record' =>
          simp only
          rcases ih record' with ⟨record'', hbecomes, hperform⟩ |
            ⟨before, last, after, record'', e, hsplit, hbecomes, hfails, hperform⟩
          · left
            use record'', .cons happly hbecomes
            rw [hperform, List.map_cons]
          · right
            use effect :: before, last, after, record'', e
            refine ⟨?_, .cons happly hbecomes, hfails, ?_⟩
            · rw [hsplit, List.cons_append]
            · rw [hperform, List.cons_append, List.map_cons]

/-! ### Rules -/

@[simp] theorem FieldRule.input_skippedIf (r : FieldRule ρ) (page : Page) (missing : Bool) :
  r.input (page.skippedIf missing) = r.input page
  := by
  unfold FieldRule.input
  cases r.source <;> rfl

@[simp] theorem FieldRule.effects_skippedIf (r : FieldRule ρ) (page : Page) (missing : Bool) :
  r.effects (page.skippedIf missing) = r.effects page
  := by
  unfold FieldRule.effects
  rw [r.input_skippedIf]

@[simp] theorem FieldRule.lacks_skippedIf (r : FieldRule ρ) (page : Page) (missing : Bool) :
  r.lacks (page.skippedIf missing) = r.lacks page
  := by
  unfold FieldRule.lacks FieldRule.value
  rw [r.input_skippedIf]

/-! ### Marks -/

@[simp] theorem Page.markedBy_nil (page : Page) :
  page.markedBy ([] : List (FieldRule ρ)) = page
  := page.skippedIf_false

@[simp] theorem Page.markedBy_url (page : Page) (rules : List (FieldRule ρ)) :
  (page.markedBy rules).url = page.url
  := rfl

@[simp] theorem Page.markedBy_html (page : Page) (rules : List (FieldRule ρ)) :
  (page.markedBy rules).html = page.html
  := rfl

@[simp] theorem Page.markedBy_skip (page : Page) (rules : List (FieldRule ρ)) :
  (page.markedBy rules).skip = (page.skip || rules.any fun r => r.lacks page)
  := rfl

theorem Page.markedBy_markedBy (page : Page) (rules : List (FieldRule ρ)) :
  (page.markedBy rules).markedBy rules = page.markedBy rules
  := by
  simp only [Page.markedBy, FieldRule.lacks_skippedIf, Page.skippedIf_skippedIf, Bool.or_self]

/-! ### Rules and their effects -/

theorem Writing.write_eq_perform (w : Writing ρ α) (field : String) (wrap : α → FieldValue)
    (record : ρ) (value : α) :
  w.write field wrap record value = perform (w.effects field wrap value) record
  := by
  unfold Writing.write Writing.effects
  cases w.writer with
  | none => rfl
  | some writer =>
      simp only [Option.toList_some, List.map_cons, List.map_nil, List.singleton_append, perform]
      cases writer record value <;> rfl

theorem FieldRule.write_eq_perform (r : FieldRule ρ) (record : ρ) (page : Page) :
  r.write record page = perform (r.effects page) record
  := by
  unfold FieldRule.write FieldRule.effects
  cases r.sink with
  | text w => exact w.write_eq_perform _ _ _ _
  | list w => exact w.write_eq_perform _ _ _ _

/-- Applying rules performs their effects. -/
theorem applyRules_eq_perform (rules : List (FieldRule ρ)) (record : ρ) (page : Page) :
  ((applyRules rules record page).1, (applyRules rules record page).2.2)
    = perform (rules.flatMap (FieldRule.effects · page)) record
  := by
  induction rules generalizing record page with
  | nil => rfl
  | cons r rules ih =>
      rw [applyRules, List.flatMap_cons, perform_append, r.write_eq_perform]
      rcases perform (r.effects page) record with ⟨e | record', calls⟩
      · rfl
      · have ih := ih record' (page.skippedIf (r.lacks page))
        simp only [FieldRule.effects_skippedIf] at ih
        simp only [← ih]

/-- Rules that have all been applied leave the mark of what they lack. -/
theorem applyRules_page {rules : List (FieldRule ρ)} {record record' : ρ} {page : Page}
    (h : (applyRules rules record page).1 = .ok record') :
  (applyRules rules record page).2.1 = page.markedBy rules
  := by
  induction rules generalizing record page with
  | nil => exact page.skippedIf_false.symm
  | cons r rules ih =>
      rw [applyRules] at h ⊢
      generalize r.write record page = written at h ⊢
      rcases written with ⟨e | record'', calls⟩
      · cases h
      · rw [ih h]
        simp only [Page.markedBy, FieldRule.lacks_skippedIf, Page.skippedIf_skippedIf,
          List.any_cons]

/-! ### Runs -/

namespace Extractor

theorem finish_eq_perform (x : Extractor ρ) (record : ρ) (page : Page) :
  x.finish record page = perform (x.hookEffects page) record
  := by
  unfold finish hookEffects
  cases x.afterExtract with
  | none => rfl
  | some hook =>
      simp only [Option.toList_some, List.map_cons, List.map_nil, perform]
      cases hook record page <;> rfl

/-- A run that has started a record performs the effects of the extractor. -/
theorem run_eq_perform {x : Extractor ρ} {page : Page} (htarget : x.target.isMatch page.url = true)
    {record : ρ} (hrecord : x.factory = .ok record) :
  (x.run page).result = (perform (x.effects page) record).1.map some ∧
    (x.run page).calls = .factory :: (perform (x.effects page) record).2
  := by
  rw [run, if_pos htarget, hrecord, effects, perform_append, ← applyRules_eq_perform]
  rcases happly : applyRules x.rules record page with ⟨e | record', page', calls⟩
  · simp [happly, Except.map]
  · have hpage : page' = page.markedBy x.rules := by
      rw [← applyRules_page (congrArg Prod.fst happly), happly]
    simp [happly, hpage, finish_eq_perform]

theorem call_ne_factory {x : Extractor ρ} {page : Page} {effect : Effect ρ}
    (h : effect ∈ x.effects page) :
  effect.call ≠ .factory
  := by
  rcases List.mem_append.1 h with h | h
  · obtain ⟨r, -, h⟩ := List.mem_flatMap.1 h
    unfold FieldRule.effects Writing.effects at h
    split at h
    all_goals
      simp only [List.mem_append, List.mem_map, List.mem_singleton] at h
      rcases h with ⟨_, -, rfl⟩ | rfl <;> exact Call.noConfusion
  · obtain ⟨hook, -, rfl⟩ := List.mem_map.1 h
    exact Call.noConfusion

/-- Of effects of an extractor, after the factory, none calls the factory. -/
theorem count_factory {x : Extractor ρ} {page : Page} {effects : List (Effect ρ)}
    (h : effects ⊆ x.effects page) :
  (Call.factory :: effects.map Effect.call).count .factory = 1
  := by
  rw [List.count_cons_self, List.count_eq_zero.2]
  intro hmem
  obtain ⟨effect, heffect, hcall⟩ := List.mem_map.1 hmem
  exact call_ne_factory (h heffect) hcall

/-- A run on a page whose URL is no target makes no call and has no record. A run on another page
calls the factory once and first. If this fails nothing else is done. Otherwise either no effect of
the extractor fails, and the record is what the record of the factory becomes by all of them, in
their order and nothing between them; or the effects before the first that fails and that one are
performed, no other is, and there is no record. -/
theorem run_performs_effects (x : Extractor ρ) (page : Page) :
  (x.target.isMatch page.url = false →
    (x.tryApply page).1 = .ok none ∧ (x.run page).calls = []) ∧
  (x.target.isMatch page.url = true →
    (x.run page).calls.count .factory = 1 ∧
    ((∃ e, x.factory = .error e ∧
        (x.tryApply page).1 = .error e.ofFactory ∧ (x.run page).calls = [.factory]) ∨
      (∃ record record', x.factory = .ok record ∧ Becomes record (x.effects page) record' ∧
        (x.tryApply page).1 = .ok (some record') ∧
        (x.run page).calls = .factory :: (x.effects page).map Effect.call) ∨
      (∃ record before last after record' e, x.factory = .ok record ∧
        x.effects page = before ++ last :: after ∧
        Becomes record before record' ∧ last.apply record' = .error e ∧
        (x.tryApply page).1 = .error e ∧
        (x.run page).calls = .factory :: (before ++ [last]).map Effect.call)))
  := by
  constructor
  · intro htarget
    simp [tryApply, run, htarget]
  · intro htarget
    cases hfactory : x.factory with
    | error e =>
        have hrun : x.run page = ⟨.error e.ofFactory, page, [.factory]⟩ := by
          rw [run, if_pos htarget, hfactory]
        simp [tryApply, hrun]
    | ok record =>
        obtain ⟨hresult, hcalls⟩ := run_eq_perform htarget hfactory
        rcases perform_cases (x.effects page) record with ⟨record', hbecomes, hperform⟩ |
          ⟨before, last, after, record', e, hsplit, hbecomes, hfails, hperform⟩
        · rw [hperform] at hresult hcalls
          simp only at hcalls
          constructor
          · rw [hcalls]
            exact count_factory fun _ h => h
          · exact .inr (.inl ⟨record, record', rfl, hbecomes, hresult, hcalls⟩)
        · rw [hperform] at hresult hcalls
          simp only at hcalls
          constructor
          · rw [hcalls]
            apply count_factory
            rw [hsplit, List.append_cons before last after]
            exact List.subset_append_left _ _
          · exact .inr (.inr ⟨record, before, last, after, record', e, rfl, hsplit, hbecomes, hfails,
              hresult, hcalls⟩)

end Extractor

end PageModel
