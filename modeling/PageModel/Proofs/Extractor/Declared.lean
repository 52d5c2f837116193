import Mathlib.Tactic.ByContra
import Mathlib.Tactic.Use
import PageModel.Proofs.Extractor.Compiling

/-!
# Rules given one after the other

A field may be given rules again and again, and has the last one. All that it keeps of those before is
whether there were rules of both kinds. It looks at the rule that it replaces only; since the kinds of
the rules have to change somewhere if both occur, nothing is missed by that (`Field.Remembers`). Such a
field is a fault, and its first one, whatever its last rules are.
-/

namespace PageModel

variable {ρ : Type} {f : Field ρ} {rules : List FieldRuleSpec}

/-! ### Rules of both kinds -/

/-- A field that has been given rules one after the other. -/
def Field.withRules (f : Field ρ) (rules : List FieldRuleSpec) : Field ρ :=
  rules.foldl Field.withRule f

/-- Whether there are rules about the text of pages and rules about their URLs. -/
def AreMixed (rules : List FieldRuleSpec) : Prop :=
  (∃ r, .body r ∈ rules) ∧ ∃ r, .address r ∈ rules

theorem areMixed_iff :
  AreMixed rules ↔ ∃ r ∈ rules, ∃ r' ∈ rules, r.source ≠ r'.source
  := by
  constructor
  · rintro ⟨⟨b, hb⟩, a, ha⟩
    use .body b, hb, .address a, ha
    apply Source.noConfusion
  · rintro ⟨r, hr, r', hr', hsource⟩
    cases r with
    | body b =>
        cases r' with
        | body b' => cases hsource rfl
        | address a => exact ⟨⟨b, hr⟩, a, hr'⟩
    | address a =>
        cases r' with
        | body b => exact ⟨⟨b, hr'⟩, a, hr⟩
        | address a' => cases hsource rfl

/-- One more rule makes rules mixed if it is of another kind than the last one, which stands for all of
them if they were not mixed before. -/
theorem areMixed_append_iff (r : FieldRuleSpec) :
  AreMixed (rules ++ [r]) ↔ AreMixed rules ∨ ∃ last ∈ rules.getLast?, last.source ≠ r.source
  := by
  simp only [areMixed_iff]
  constructor
  · rintro ⟨s, hs, s', hs', hsource⟩
    by_contra hnone
    obtain ⟨hsame, hlast⟩ := not_or.1 hnone
    have hall : ∀ t ∈ rules ++ [r], t.source = r.source := by
      intro t ht
      rcases List.mem_append.1 ht with ht | ht
      · have hmem : rules.getLast (List.ne_nil_of_mem ht) ∈ rules.getLast? :=
          List.getLast?_eq_some_getLast _
        calc t.source
            = (rules.getLast (List.ne_nil_of_mem ht)).source := by
              by_contra hne
              apply hsame ⟨t, ht, _, List.mem_of_getLast? hmem, hne⟩
          _ = r.source := by
              by_contra hne
              apply hlast ⟨_, hmem, hne⟩
      · rw [List.mem_singleton.1 ht]
    apply hsource
    rw [hall s hs, hall s' hs']
  · rintro (⟨s, hs, s', hs', hsource⟩ | ⟨last, hlast, hsource⟩)
    · use s, List.mem_append_left _ hs, s', List.mem_append_left _ hs'
    · use last, List.mem_append_left _ (List.mem_of_getLast? hlast), r
      use List.mem_append_right _ (List.mem_singleton_self r)

/-! ### What a field remembers -/

theorem Field.withRule_eq (f : Field ρ) (r : FieldRuleSpec) :
  f.withRule r =
    { f with
      rule := some r
      conflicting := f.conflicting || f.rule.any fun old => old.source ≠ r.source }
  := by
  cases r <;> cases hrule : f.rule with
  | none => simp [withRule, extractBy, extractByUrl, hrule]
  | some old => cases old <;> simp [withRule, extractBy, extractByUrl, hrule, FieldRuleSpec.source]

/-- The relation of a field with the rules that it has been given: it has the last one, and is marked if
there were rules of both kinds. -/
structure Field.Remembers (f : Field ρ) (rules : List FieldRuleSpec) : Prop where
  rule : f.rule = rules.getLast?
  conflicting : f.conflicting = true ↔ AreMixed rules

theorem remembers_ofSlot (name : String) (slot : Slot ρ) :
  (Field.ofSlot name slot).Remembers []
  where
  rule := rfl
  conflicting := by simp [Field.ofSlot, AreMixed]

/-- Giving a field one more rule keeps what it remembers. -/
theorem Field.Remembers.withRule (h : f.Remembers rules) (r : FieldRuleSpec) :
  (f.withRule r).Remembers (rules ++ [r])
  where
  rule := by
    rw [f.withRule_eq, List.getLast?_concat]
  conflicting := by
    rw [f.withRule_eq, areMixed_append_iff, Bool.or_eq_true, h.conflicting, h.rule,
      Option.any_eq_true]
    simp

theorem Field.Remembers.withRules (h : f.Remembers rules) (more : List FieldRuleSpec) :
  (f.withRules more).Remembers (rules ++ more)
  := by
  induction more generalizing f rules with
  | nil =>
      rw [List.append_nil]
      apply h
  | cons r more ih =>
      rw [List.append_cons]
      apply ih (h.withRule r)

theorem Field.withRules_name (f : Field ρ) (rules : List FieldRuleSpec) :
  (f.withRules rules).name = f.name
  := by
  induction rules generalizing f with
  | nil => rfl
  | cons r rules ih =>
      apply Eq.trans (ih (f.withRule r))
      rw [f.withRule_eq]

/-- Of rules of one kind that follow each other only the last one counts, whatever came before them. -/
theorem Field.withRules_of_same_source (f : Field ρ) (r : FieldRuleSpec)
    (h : ∀ r' ∈ rules, r'.source = r.source) :
  f.withRules (rules ++ [r]) = f.withRule r
  := by
  induction rules generalizing f with
  | nil => rfl
  | cons s rules ih =>
      obtain ⟨hs, hrules⟩ := List.forall_mem_cons.1 h
      apply Eq.trans (ih (f.withRule s) hrules)
      rw [f.withRule_eq, Field.withRule_eq, f.withRule_eq]
      simp [hs]

/-! ### Fields that are the only fault -/

/-- The selector of a rule is refused on account of its expression only. -/
theorem FieldRuleSpec.build_ne_schema (r : FieldRuleSpec) (fault : SchemaFault) :
  r.build ≠ .error (.schema fault)
  := by
  intro h
  unfold FieldRuleSpec.build at h
  split at h
  · cases h
  · cases h

/-- A field is refused on account of rules of both kinds if and only if it is marked. -/
theorem Field.compile_eq_bothRules_iff (f : Field ρ) :
  f.compile = .error (.schema (.bothRules f.name)) ↔ f.conflicting = true
  := by
  cases hmark : f.conflicting with
  | true => simp [Field.compile, hmark]
  | false =>
      simp only [Bool.false_eq_true, iff_false]
      intro h
      cases hrule : f.rule with
      | none => simp [Field.compile, hmark, hrule] at h
      | some r =>
          rw [Field.compile_eq hmark hrule] at h
          cases hbuild : r.build with
          | error e =>
              rw [hbuild] at h
              apply r.build_ne_schema (.bothRules f.name)
              rw [hbuild, Except.error.inj h]
          | ok selector =>
              rw [hbuild] at h
              cases hsink : f.slot.sink? r.multi with
              | error expected => simp [hsink, Except.bind, Except.map, Except.mapError] at h
              | ok sink => simp [hsink, Except.bind, Except.map, Except.mapError] at h

/-- A schema with a field besides which nothing is wrong has the faults of the field. -/
theorem Schema.faults_eq_of_rest {s : Schema ρ} {before after : List (Field ρ)}
    (hfields : s.fields = before ++ f :: after)
    (hrest : Schema.faults { s with fields := before ++ after } = []) :
  s.faults = f.faults
  := by
  simp only [Schema.faults, List.flatMap_append, List.append_eq_nil_iff] at hrest
  obtain ⟨⟨htarget, hhelp⟩, hbefore, hafter⟩ := hrest
  rw [Schema.faults, htarget, hhelp, hfields, List.flatMap_append, List.flatMap_cons, hbefore, hafter,
    List.nil_append, List.nil_append, List.nil_append, List.append_nil]

/-- A field that has been given rules one after the other has the last one, if there is one. Where it is
the only field of a schema with which something may be wrong, the schema is refused for it on account of
rules of both kinds if and only if there were rules of both kinds, in whatever order and however long
ago. Of rules of one kind that follow each other only the last counts. -/
theorem Schema.compile_withRules (name : String) (slot : Slot ρ) (rules : List FieldRuleSpec) :
  ((Field.ofSlot name slot).withRules rules).rule = rules.getLast? ∧
    (∀ (s : Schema ρ) (before after : List (Field ρ)),
      s.fields = before ++ (Field.ofSlot name slot).withRules rules :: after →
      (∃ x, Schema.compile { s with fields := before ++ after } = .ok x) →
      (s.compile = .error (.schema (.bothRules name)) ↔
        (∃ r, .body r ∈ rules) ∧ ∃ r, .address r ∈ rules)) ∧
    ∀ earlier repeated r, rules = earlier ++ repeated ++ [r] →
      (∀ r' ∈ repeated, r'.source = r.source) →
      (Field.ofSlot name slot).withRules rules
        = (Field.ofSlot name slot).withRules (earlier ++ [r])
  := by
  have hfield := (remembers_ofSlot name slot).withRules rules
  rw [List.nil_append] at hfield
  refine ⟨hfield.rule, ?_, ?_⟩
  · intro s before after hfields hrest
    rw [(reportsFirst_compile _).exists_ok_iff] at hrest
    have hname := (Field.ofSlot name slot).withRules_name rules
    have hboth := ((Field.ofSlot name slot).withRules rules).compile_eq_bothRules_iff
    rw [reportsFirst_compile, Schema.faults_eq_of_rest hfields hrest, ← reportsFirst_compileField]
    rw [hname, hfield.conflicting] at hboth
    apply hboth
  · rintro earlier repeated r rfl hsame
    rw [List.append_assoc, Field.withRules, List.foldl_append]
    apply Eq.trans (Field.withRules_of_same_source _ r hsame)
    rw [Field.withRules, List.foldl_append]
    rfl

/-- Rules about the text of pages with rules about their URLs in between. -/
def wavering : List FieldRuleSpec :=
  [.body ⟨"//h1", .xpath, false, false⟩, .address ⟨"q/(\\d+)", true, false⟩,
    .address ⟨"", false, false⟩, .body ⟨"//h2", .xpath, false, false⟩,
    .body ⟨"h1", .css, false, false⟩]

/-- A schema that has a field with these rules, between two fields with which nothing is wrong. -/
def waveringSchema : Schema Unit where
  name := "question"
  fields :=
    [(Field.text "id" fun u _ => u).extractByUrl ⟨"", true, false⟩,
      (Field.text "title" fun u _ => u).withRules wavering, .other "votes" "u32"]
  factory := .ok ()

/-- The field is refused although its last two rules are of one kind. -/
theorem waveringSchema_compile :
  ((Field.text "title" fun (u : Unit) _ => u).withRules wavering).rule
      = some (.body ⟨"h1", .css, false, false⟩) ∧
    (∃ x, Schema.compile { waveringSchema with
      fields := waveringSchema.fields.take 1 ++ waveringSchema.fields.drop 2 } = .ok x) ∧
    waveringSchema.compile = .error (.schema (.bothRules "title"))
  := by
  obtain ⟨hrule, hcompile, -⟩ :=
    Schema.compile_withRules "title" (.text ⟨fun (u : Unit) _ => u, none⟩) wavering
  have hrest : ∃ x, Schema.compile { waveringSchema with
      fields := waveringSchema.fields.take 1 ++ waveringSchema.fields.drop 2 } = .ok x := by
    apply exists_of_isOk
    decide +kernel
  refine ⟨hrule, hrest, ?_⟩
  apply (hcompile waveringSchema (waveringSchema.fields.take 1) (waveringSchema.fields.drop 2) rfl
    hrest).2
  constructor
  · exact ⟨_, List.mem_cons_self⟩
  · exact ⟨_, List.mem_cons_of_mem _ List.mem_cons_self⟩

end PageModel
