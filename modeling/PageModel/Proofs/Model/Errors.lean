import PageModel.Model.Text
import PageModel.Proofs.Extractor.Faults
import PageModel.Proofs.Extractor.Stop
import PageModel.Proofs.Model.Extraction

/-!
# Errors of models and errors of pages

Reading a model, making a schema of it and compiling the schema fail with errors of a model only. A
run on a page fails with errors of a page only, whatever errors the code of the schema comes up with:
the factory, the writers and the hook each have an error of their own, in which the wording of the
error that they came up with is kept (`errors_by_stage`).
-/

namespace PageModel

variable {ρ ε α β : Type}

/-! ### Steps that fail -/

theorem eq_error_of_map {x : Except ε α} {f : α → β} {e : ε} (h : x.map f = .error e) :
  x = .error e
  := by
  cases x with
  | error e' => rw [Except.error.inj h]
  | ok a => cases h

theorem eq_error_or_of_bind {x : Except ε α} {f : α → Except ε β} {e : ε}
    (h : x.bind f = .error e) :
  x = .error e ∨ ∃ a, x = .ok a ∧ f a = .error e
  := by
  cases x with
  | error e' =>
      left
      rw [Except.error.inj h]
  | ok a => exact .inr ⟨a, rfl, h⟩

/-! ### Errors of models -/

/-- A list of errors of models. -/
def AreSchemaErrors (faults : List Error) : Prop :=
  ∀ e ∈ faults, e.isSchemaError = true

theorem areSchemaErrors_append {faults faults' : List Error} (h : AreSchemaErrors faults)
    (h' : AreSchemaErrors faults') :
  AreSchemaErrors (faults ++ faults')
  := by
  intro e he
  rcases List.mem_append.1 he with he | he
  · apply h e he
  · apply h' e he

theorem areSchemaErrors_flatMap {f : α → List Error} (h : ∀ a, AreSchemaErrors (f a))
    (as : List α) :
  AreSchemaErrors (as.flatMap f)
  := by
  intro e he
  obtain ⟨a, -, he⟩ := List.mem_flatMap.1 he
  apply h a e he

theorem areSchemaErrors_globFaults (glob : String) :
  AreSchemaErrors (globFaults glob)
  := by
  unfold globFaults
  split <;> simp [AreSchemaErrors, Error.isSchemaError]

theorem areSchemaErrors_pathFaults (path : String) :
  AreSchemaErrors (pathFaults path)
  := by
  unfold pathFaults
  split <;> simp [AreSchemaErrors, Error.isSchemaError]

theorem areSchemaErrors_selectorFaults (kind : SelectorKind) (expression : String) :
  AreSchemaErrors (selectorFaults kind expression)
  := by
  cases kind with
  | css =>
      unfold selectorFaults
      simp only
      split <;> simp [AreSchemaErrors, Error.isSchemaError]
  | regex =>
      unfold selectorFaults
      simp only
      split
      · simp [AreSchemaErrors, Error.isSchemaError]
      · split <;> simp [AreSchemaErrors, Error.isSchemaError]
  | xpath => apply areSchemaErrors_pathFaults
  | xpath2 => apply areSchemaErrors_pathFaults

theorem UrlRule.areSchemaErrors_faults (r : UrlRule) :
  AreSchemaErrors r.faults
  := by
  apply areSchemaErrors_append
  · apply areSchemaErrors_flatMap areSchemaErrors_globFaults
  · apply areSchemaErrors_flatMap fun path => areSchemaErrors_pathFaults (Unicode.trimText path)

theorem Field.areSchemaErrors_faults (f : Field ρ) :
  AreSchemaErrors f.faults
  := by
  apply areSchemaErrors_append
  · split <;> simp [AreSchemaErrors, Error.isSchemaError]
  · apply areSchemaErrors_flatMap
    intro r
    apply areSchemaErrors_append (areSchemaErrors_selectorFaults r.kind r.expression)
    split <;> simp [AreSchemaErrors, Error.isSchemaError]

/-- The faults of a schema are errors of a model. -/
theorem Schema.areSchemaErrors_faults (s : Schema ρ) :
  AreSchemaErrors s.faults
  := by
  apply areSchemaErrors_append
  · apply areSchemaErrors_append
    · apply areSchemaErrors_flatMap UrlRule.areSchemaErrors_faults
    · apply areSchemaErrors_flatMap UrlRule.areSchemaErrors_faults
  · apply areSchemaErrors_flatMap Field.areSchemaErrors_faults

/-- Compiling a schema fails with errors of a model only. -/
theorem Schema.isSchemaError_of_compile {s : Schema ρ} {e : Error} (h : s.compile = .error e) :
  e.isSchemaError = true
  := by
  have hhead := (reportsFirst_compile s e).1 h
  apply s.areSchemaErrors_faults e (List.mem_of_mem_head? hhead)

theorem FieldSpec.isSchemaError_of_toField {f : FieldSpec} {e : Error} (h : f.toField = .error e) :
  e.isSchemaError = true
  := by
  unfold FieldSpec.toField at h
  simp only at h
  split at h
  · obtain rfl := Except.error.inj h
    rfl
  all_goals cases h

theorem isSchemaError_of_toFields {fs : List FieldSpec} {e : Error} (h : toFields fs = .error e) :
  e.isSchemaError = true
  := by
  induction fs with
  | nil => cases h
  | cons f fs ih =>
      rw [toFields_cons] at h
      rcases eq_error_or_of_bind h with hfield | ⟨field, -, h⟩
      · apply FieldSpec.isSchemaError_of_toField hfield
      · apply ih (eq_error_of_map h)

/-- Making a schema of a model fails with errors of a model only. -/
theorem ModelSpec.isSchemaError_of_toSchema {m : ModelSpec} {e : Error}
    (h : m.toSchema = .error e) :
  e.isSchemaError = true
  := by
  apply isSchemaError_of_toFields (eq_error_of_map h)

/-- Reading a model fails with errors of a model only. -/
theorem ModelSpec.isSchemaError_of_ofText {text : String} {e : Error}
    (h : ModelSpec.ofText text = .error e) :
  e.isSchemaError = true
  := by
  unfold ModelSpec.ofText at h
  split at h
  · cases h
  · obtain rfl := Except.error.inj h
    rfl

/-! ### Errors of pages -/

namespace Error

theorem ofFactory_of_ne {e : Error} (h : ∀ fault, e ≠ .record fault) :
  e.ofFactory = .record (.stated e.message)
  := by
  cases e with
  | record fault => exact absurd rfl (h fault)
  | _ => rfl

theorem ofHook_of_ne {e : Error} (h : ∀ message, e ≠ .afterExtract message) :
  e.ofHook = .afterExtract e.message
  := by
  cases e with
  | afterExtract message => exact absurd rfl (h message)
  | _ => rfl

/-- The wording of an error of the factory is kept. -/
theorem exists_message_ofFactory (e : Error) :
  ∃ lead, e.ofFactory.message = lead ++ e.message
  := by
  cases e with
  | record fault => exact ⟨"", (String.empty_append).symm⟩
  | _ => exact ⟨"Record error: ", rfl⟩

/-- The wording of an error of the hook is kept. -/
theorem exists_message_ofHook (e : Error) :
  ∃ lead, e.ofHook.message = lead ++ e.message
  := by
  cases e with
  | afterExtract message => exact ⟨"", (String.empty_append).symm⟩
  | _ => exact ⟨"After-extract hook failed: ", rfl⟩

theorem isDocumentFatal_ofFactory (e : Error) :
  e.ofFactory.isDocumentFatal = true
  := by
  cases e <;> rfl

theorem isDocumentFatal_ofHook (e : Error) :
  e.ofHook.isDocumentFatal = true
  := by
  cases e <;> rfl

end Error

/-- An error of a run comes from where it stops, is an error of a page, and keeps the wording. -/
theorem Extractor.exists_cause {x : Extractor ρ} {page : Page} {e : Error}
    (h : (x.tryApply page).1 = .error e) :
  ∃ cause,
    (x.StopsAt page (.factory cause) ∨ (∃ before r, x.StopsAt page (.writer before r cause)) ∨
      x.StopsAt page (.hook cause)) ∧
    e.isDocumentFatal = true ∧ ∃ lead, e.message = lead ++ cause.message
  := by
  obtain ⟨stop, hstop⟩ := x.exists_stopsAt page
  rw [tryApply_of_stopsAt hstop] at h
  cases stop with
  | noTarget => cases h
  | factory cause =>
      obtain rfl := Except.error.inj h
      use cause, .inl hstop, cause.isDocumentFatal_ofFactory
      apply cause.exists_message_ofFactory
  | writer before r cause =>
      obtain rfl := Except.error.inj h
      use cause, .inr (.inl ⟨before, r, hstop⟩), rfl
      exact ⟨_, rfl⟩
  | hook cause =>
      obtain rfl := Except.error.inj h
      use cause, .inr (.inr hstop), cause.isDocumentFatal_ofHook
      apply cause.exists_message_ofHook
  | finished record => cases h

/-- What a text, a model or a schema fails with before there is an extractor is an error of a model.
What a run fails with is an error of a page and not of a model, and keeps the wording of the error
that the schema's own code came up with, whichever that is: an error of the factory becomes one of the
record, unless it is one; an error of a writer becomes one of the field whose rule was to be applied;
an error of the hook becomes one of the hook, unless it is one. -/
theorem errors_by_stage :
  (∀ text e, ModelSpec.ofText text = .error e → e.isSchemaError = true) ∧
    (∀ (m : ModelSpec) e, m.toSchema = .error e → e.isSchemaError = true) ∧
    ∀ ρ : Type,
      (∀ (s : Schema ρ) e, s.compile = .error e → e.isSchemaError = true) ∧
      ∀ (x : Extractor ρ) (page : Page),
        (∀ e, (x.tryApply page).1 = .error e →
          e.isDocumentFatal = true ∧ e.isSchemaError = false ∧
          ∃ cause,
            (x.StopsAt page (.factory cause) ∨
              (∃ before r, x.StopsAt page (.writer before r cause)) ∨
              x.StopsAt page (.hook cause)) ∧
            ∃ lead, e.message = lead ++ cause.message) ∧
        (∀ fault, x.StopsAt page (.factory (.record fault)) →
          (x.tryApply page).1 = .error (.record fault)) ∧
        (∀ cause, x.StopsAt page (.factory cause) → (∀ fault, cause ≠ .record fault) →
          (x.tryApply page).1 = .error (.record (.stated cause.message))) ∧
        (∀ before r cause, x.StopsAt page (.writer before r cause) →
          (x.tryApply page).1 = .error (.fieldWrite r.name cause.message)) ∧
        (∀ message, x.StopsAt page (.hook (.afterExtract message)) →
          (x.tryApply page).1 = .error (.afterExtract message)) ∧
        (∀ cause, x.StopsAt page (.hook cause) → (∀ message, cause ≠ .afterExtract message) →
          (x.tryApply page).1 = .error (.afterExtract cause.message))
  := by
  refine ⟨fun _ _ => ModelSpec.isSchemaError_of_ofText,
    fun _ _ => ModelSpec.isSchemaError_of_toSchema, ?_⟩
  intro ρ
  refine ⟨fun _ _ => Schema.isSchemaError_of_compile, ?_⟩
  intro x page
  have hresult {stop : Stop ρ} (h : x.StopsAt page stop) : (x.tryApply page).1 = stop.result := by
    rw [Extractor.tryApply_of_stopsAt h]
  refine ⟨?_, fun fault h => hresult h, ?_, fun before r cause h => hresult h,
    fun message h => hresult h, ?_⟩
  · intro e h
    obtain ⟨cause, hstop, hfatal, hmessage⟩ := Extractor.exists_cause h
    use hfatal, Error.not_isSchemaError_of_isDocumentFatal hfatal, cause, hstop
  · intro cause h hne
    rw [hresult h, Stop.result, Error.ofFactory_of_ne hne]
  · intro cause h hne
    rw [hresult h, Stop.result, Error.ofHook_of_ne hne]

end PageModel
