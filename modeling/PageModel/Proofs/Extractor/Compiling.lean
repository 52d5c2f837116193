import Mathlib.Data.List.Forall2
import PageModel.Proofs.Extractor.Faults

/-!
# What a schema is compiled to

Each field that has a rule is compiled to one rule that can be applied to pages, which keeps what the
field declares (`FieldRule.Implements`); fields without a rule are passed over. Hence a schema is
compiled unless it has a fault, in which case its first one is reported, and nothing that it declares
is lost.
-/

namespace PageModel

variable {ρ ε α β : Type}

/-! ### Steps that have a result -/

theorem exists_of_bind_eq_ok {x : Except ε α} {f : α → Except ε β} {b : β}
    (h : x.bind f = .ok b) :
  ∃ a, x = .ok a ∧ f a = .ok b
  := by
  cases x with
  | error e => cases h
  | ok a => exact ⟨a, rfl, h⟩

theorem exists_of_map_eq_ok {x : Except ε α} {f : α → β} {b : β} (h : x.map f = .ok b) :
  ∃ a, x = .ok a ∧ f a = b
  := by
  cases x with
  | error e => cases h
  | ok a => exact ⟨a, rfl, Except.ok.inj h⟩

theorem bind_eq_ok_iff {x : Except ε α} {f : α → Except ε β} {b : β} :
  x.bind f = .ok b ↔ ∃ a, x = .ok a ∧ f a = .ok b
  := by
  constructor
  · exact exists_of_bind_eq_ok
  · rintro ⟨a, rfl, h⟩
    exact h

theorem map_eq_ok_iff {x : Except ε α} {f : α → β} {b : β} :
  x.map f = .ok b ↔ ∃ a, x = .ok a ∧ f a = b
  := by
  constructor
  · exact exists_of_map_eq_ok
  · rintro ⟨a, rfl, rfl⟩
    rfl

theorem exists_of_isOk {x : Except ε α} (h : x.isOk = true) :
  ∃ a, x = .ok a
  := by
  cases x with
  | error e => cases h
  | ok a => exact ⟨a, rfl⟩

theorem eq_ok_of_mapError {x : Except ε α} {f : ε → Error} {a : α}
    (h : x.mapError f = .ok a) :
  x = .ok a
  := by
  cases x with
  | error e => cases h
  | ok b => rw [Except.ok.inj h]

/-! ### Rules of fields -/

/-- What a field takes, when values are written into it. -/
def Sink.slot : Sink ρ → Slot ρ
  | .text w => .text w
  | .list w => .list w

theorem Sink.eq_text_of_slot {sink : Sink ρ} {w : Writing ρ (Option String)}
    (h : sink.slot = .text w) :
  sink = .text w
  := by
  cases sink with
  | text w' => rw [Slot.text.inj h]
  | list w' => cases h

theorem Sink.eq_list_of_slot {sink : Sink ρ} {w : Writing ρ (List String)}
    (h : sink.slot = .list w) :
  sink = .list w
  := by
  cases sink with
  | text w' => cases h
  | list w' => rw [Slot.list.inj h]

theorem Sink.slot_ne_other (sink : Sink ρ) (typeName : String) :
  sink.slot ≠ .other typeName
  := by
  intro h
  cases sink <;> cases h

/-- The relation of a rule that can be applied to pages with the field and the rule that it was
compiled from. The expression is the declared one, but a blank one about URLs is the pattern of
every URL. -/
structure FieldRule.Implements (r : FieldRule ρ) (f : Field ρ) (spec : FieldRuleSpec) : Prop where
  name : r.name = f.name
  source : r.source = spec.source
  required : r.required = spec.required
  multi : r.multi = spec.multi
  expression : r.selector.expression =
    match spec with
    | .body b => b.value
    | .address a => if Unicode.isBlankText a.value then ".*" else a.value
  selector : Selector.build spec.kind spec.expression = .ok r.selector
  slot : r.sink.slot = f.slot

/-- The fields that have a rule, with the rule. -/
def ruledFields (fields : List (Field ρ)) : List (Field ρ × FieldRuleSpec) :=
  fields.filterMap fun f => f.rule.map fun spec => (f, spec)

/-- The relation of the rules that can be applied to pages with the fields that they were compiled
from. -/
def ImplementFields (rules : List (FieldRule ρ)) (fields : List (Field ρ)) : Prop :=
  List.Forall₂ (fun r p => r.Implements p.1 p.2) rules (ruledFields fields)

/-- A selector keeps its expression. -/
theorem expression_of_build {kind : SelectorKind} {expression : String} {s : Selector}
    (h : Selector.build kind expression = .ok s) :
  s.expression = expression
  := by
  cases kind with
  | css =>
      simp only [Selector.build, Selector.ofCss] at h
      split at h
      · rw [← Except.ok.inj h]
      · cases h
  | regex =>
      simp only [Selector.build, Selector.ofPattern] at h
      split at h
      · cases h
      · split at h
        · rw [← Except.ok.inj h]
        · cases h
  | _ =>
      simp only [Selector.build, Selector.ofPath] at h
      split at h
      · rw [← Except.ok.inj h]
      · cases h

/-- What is written into takes what the field takes, and as many values as the rule has. -/
theorem slot_of_sink? {slot : Slot ρ} {multi : Bool} {sink : Sink ρ}
    (h : slot.sink? multi = .ok sink) :
  sink.slot = slot ∧ ∀ {r : FieldRule ρ}, r.sink = sink → r.multi = multi
  := by
  cases slot with
  | other typeName => cases multi <;> cases h
  | text w =>
      cases multi with
      | true => cases h
      | false =>
          obtain rfl := Except.ok.inj h
          refine ⟨rfl, ?_⟩
          intro r hr
          rw [FieldRule.multi, hr]
  | list w =>
      cases multi with
      | false => cases h
      | true =>
          obtain rfl := Except.ok.inj h
          refine ⟨rfl, ?_⟩
          intro r hr
          rw [FieldRule.multi, hr]

/-- A field that has a rule is compiled to what implements it, and another field to nothing. -/
theorem implementFields_of_compileField {f : Field ρ} {rule : Option (FieldRule ρ)}
    (h : f.compile = .ok rule) :
  ImplementFields rule.toList [f]
  := by
  have hkinds : f.conflicting = false := by
    cases hkinds : f.conflicting with
    | false => rfl
    | true =>
        rw [Field.compile, if_pos hkinds] at h
        cases h
  cases hrule : f.rule with
  | none =>
      rw [Field.compile, hkinds, hrule] at h
      obtain rfl := Except.ok.inj h
      simp only [ImplementFields, ruledFields, List.filterMap_cons, hrule, Option.map_none]
      exact .nil
  | some spec =>
      rw [Field.compile_eq hkinds hrule] at h
      obtain ⟨selector, hbuild, h⟩ := exists_of_bind_eq_ok h
      obtain ⟨sink, hsink, rfl⟩ := exists_of_map_eq_ok h
      rw [FieldRuleSpec.build_eq] at hbuild
      have hselector := eq_ok_of_mapError hbuild
      obtain ⟨hslot, hmulti⟩ := slot_of_sink? (eq_ok_of_mapError hsink)
      simp only [ImplementFields, ruledFields, List.filterMap_cons, hrule, Option.map_some]
      refine .cons ?_ .nil
      exact {
        name := rfl
        source := rfl
        required := rfl
        multi := hmulti rfl
        expression := by
          rw [expression_of_build hselector]
          cases spec <;> rfl
        selector := hselector
        slot := hslot }

theorem implementFields_of_compileFields {fields : List (Field ρ)} {rules : List (FieldRule ρ)}
    (h : compileFields fields = .ok rules) :
  ImplementFields rules fields
  := by
  induction fields generalizing rules with
  | nil =>
      obtain rfl := Except.ok.inj h
      exact .nil
  | cons f fs ih =>
      rw [compileFields_cons] at h
      obtain ⟨rule, hrule, h⟩ := exists_of_bind_eq_ok h
      obtain ⟨rules, hrules, rfl⟩ := exists_of_map_eq_ok h
      have hsplit : ruledFields (f :: fs) = ruledFields [f] ++ ruledFields fs :=
        List.filterMap_append (l := [f])
      rw [ImplementFields, hsplit]
      exact List.rel_append (implementFields_of_compileField hrule) (ih hrules)

/-! ### Schemas -/

/-- The parts of a schema that was compiled. -/
theorem Schema.parts_of_compile {s : Schema ρ} {x : Extractor ρ} (h : s.compile = .ok x) :
  x.name = s.name ∧ UrlRuleSet.target s.targetUrl = .ok x.target ∧
    UrlRuleSet.help s.helpUrl = .ok x.help ∧ compileFields s.fields = .ok x.rules ∧
    x.factory = s.factory ∧ x.afterExtract = s.afterExtract
  := by
  rw [Schema.compile_eq] at h
  obtain ⟨target, htarget, h⟩ := exists_of_bind_eq_ok h
  obtain ⟨help, hhelp, h⟩ := exists_of_bind_eq_ok h
  obtain ⟨rules, hrules, rfl⟩ := exists_of_map_eq_ok h
  exact ⟨rfl, htarget, hhelp, hrules, rfl, rfl⟩

/-- Compiling a schema reports its first fault and nothing else. A schema without faults is compiled,
and what is compiled has the name, the sets of URLs and the code of the schema and, in their order,
the rules of the fields that have one. -/
theorem Schema.compile_reports_first_fault (s : Schema ρ) :
  (∀ e, s.compile = .error e ↔ s.faults.head? = some e) ∧
    ((∃ x, s.compile = .ok x) ↔ s.faults = []) ∧
    (∀ x, s.compile = .ok x →
      x.name = s.name ∧ UrlRuleSet.target s.targetUrl = .ok x.target ∧
        UrlRuleSet.help s.helpUrl = .ok x.help ∧ x.factory = s.factory ∧
        x.afterExtract = s.afterExtract ∧
        List.Forall₂ (fun r p => r.Implements p.1 p.2) x.rules (ruledFields s.fields))
  := by
  refine ⟨reportsFirst_compile s, (reportsFirst_compile s).exists_ok_iff, ?_⟩
  intro x h
  obtain ⟨hname, htarget, hhelp, hrules, hfactory, hafter⟩ := Schema.parts_of_compile h
  exact ⟨hname, htarget, hhelp, hfactory, hafter, implementFields_of_compileFields hrules⟩

end PageModel
