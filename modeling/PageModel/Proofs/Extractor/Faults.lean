import Mathlib.Data.List.Forall2
import PageModel.Extractor

/-!
# The first fault of a schema

The faults of a schema are listed in the order in which it is read: those of the rule for target
URLs, those of the rule for visited URLs, and those of the fields one after the other. What reads
part of a schema reports the first fault of that part (`ReportsFirst`), and this is kept when parts
are read one after the other. So compiling a schema reports its first fault. A schema without faults
is compiled, to the rules of its fields in their order.
-/

namespace PageModel

variable {ρ α β : Type}

/-! ### Faults -/

/-- The faults of a glob. -/
def globFaults (glob : String) : List Error :=
  match Regex.Pattern.compile? .default (anchoredSource (globSource glob)) with
  | some _ => []
  | none => [.selector glob .malformedPattern]

/-- The faults of a location path. -/
def pathFaults (path : String) : List Error :=
  match XPath.Path.parse path with
  | .ok _ => []
  | .error fault => [.selector path (.path fault)]

/-- The faults of a rule for URLs: of the globs that are not blank, and of the region, white space
around it left out. -/
def UrlRule.faults (r : UrlRule) : List Error :=
  (r.patterns.filter fun glob => !Unicode.isBlankText glob).flatMap globFaults
    ++ (r.sourceRegion.toList.filter fun path => !Unicode.isBlankText path).flatMap
      fun path => pathFaults (Unicode.trimText path)

/-- The faults of an expression in a query language. -/
def selectorFaults (kind : SelectorKind) (expression : String) : List Error :=
  match kind with
  | .css =>
      match Css.parseSelectors expression with
      | some _ => []
      | none => [.selector expression .malformedCss]
  | .regex =>
      if Unicode.isBlankText expression then [.selector expression .blankPattern]
      else
        match Regex.Pattern.compile? .forSelecting expression with
        | some _ => []
        | none => [.selector expression .malformedPattern]
  | .xpath => pathFaults expression
  | .xpath2 => pathFaults expression

/-- Whether a field takes a list of values, if `multi` holds, or one value otherwise. -/
def Slot.takes : Slot ρ → (multi : Bool) → Bool
  | .text _, multi => !multi
  | .list _, multi => multi
  | .other _, _ => false

/-- The faults of a field: that it has rules of both kinds, then those of its rule, that the
expression denotes no query and that the field does not take as many values. -/
def Field.faults (f : Field ρ) : List Error :=
  (if f.conflicting then [.schema (.bothRules f.name)] else [])
    ++ f.rule.toList.flatMap fun r =>
      selectorFaults r.kind r.expression
        ++ if f.slot.takes r.multi then []
          else [.cardinality f.name (if r.multi then .list else .single)]

/-- The faults of a schema. -/
def Schema.faults (s : Schema ρ) : List Error :=
  s.targetUrl.toList.flatMap UrlRule.faults ++ s.helpUrl.toList.flatMap UrlRule.faults
    ++ s.fields.flatMap Field.faults

/-! ### Reporting the first fault -/

/-- The relation of a result with a list of faults the first of which it reports. -/
def ReportsFirst (x : Except Error α) (faults : List Error) : Prop :=
  ∀ e, x = .error e ↔ faults.head? = some e

theorem reportsFirst_ok (a : α) :
  ReportsFirst (.ok a) []
  := by
  intro e
  simp

theorem reportsFirst_error (e : Error) (faults : List Error) :
  ReportsFirst (.error e : Except Error α) (e :: faults)
  := by
  intro e'
  simp

/-- Without faults there is a result. -/
theorem ReportsFirst.exists_ok_iff {x : Except Error α} {faults : List Error}
    (h : ReportsFirst x faults) :
  (∃ a, x = .ok a) ↔ faults = []
  := by
  cases x with
  | ok a =>
      have hempty : faults = [] := by
        apply List.head?_eq_none_iff.1
        apply Option.eq_none_iff_forall_ne_some.2
        intro e he
        cases (h e).2 he
      exact ⟨fun _ => hempty, fun _ => ⟨a, rfl⟩⟩
  | error e =>
      have hhead := (h e).1 rfl
      constructor
      · rintro ⟨a, ha⟩
        cases ha
      · rintro rfl
        cases hhead

/-- The faults of what is read next come after those of what has been read. -/
theorem ReportsFirst.bind {x : Except Error α} {f : α → Except Error β}
    {faults faults' : List Error} (hx : ReportsFirst x faults)
    (hf : ∀ a, x = .ok a → ReportsFirst (f a) faults') :
  ReportsFirst (x.bind f) (faults ++ faults')
  := by
  intro e
  rw [List.head?_append]
  cases x with
  | ok a =>
      have hempty : faults = [] := hx.exists_ok_iff.1 ⟨a, rfl⟩
      rw [hempty]
      exact hf a rfl e
  | error e' =>
      rw [(hx e').1 rfl, Option.some_or, Option.some.injEq]
      change (.error e' : Except Error β) = .error e ↔ _
      rw [Except.error.injEq]

theorem ReportsFirst.map {x : Except Error α} {faults : List Error} (h : ReportsFirst x faults)
    (f : α → β) :
  ReportsFirst (x.map f) faults
  := by
  intro e
  rw [← h e]
  cases x with
  | ok a => simp [Except.map]
  | error e' => simp [Except.map]

/-! ### Reading as a sequence of steps -/

theorem compileGlobs_cons (glob : String) (globs : List String) :
  compileGlobs (glob :: globs)
    = (compileGlob glob).bind fun p => (compileGlobs globs).map (p :: ·)
  := by
  conv => lhs; unfold compileGlobs
  cases compileGlob glob <;> rfl

theorem compileRegion_some (path : String) :
  compileRegion (some path) = ((Selector.ofPath path).mapError (.selector path)).map some
  := by
  rw [compileRegion]
  cases Selector.ofPath path <;> rfl

theorem UrlRuleSet.compile_eq (r : UrlRule) :
  UrlRuleSet.compile r
    = (compileGlobs r.globs).bind fun patterns =>
        (compileRegion r.regionPath?).map fun region => ⟨patterns, region, true⟩
  := by
  rw [UrlRuleSet.compile]
  cases compileGlobs r.globs <;> rfl

theorem FieldRuleSpec.build_eq (r : FieldRuleSpec) :
  r.build = (Selector.build r.kind r.expression).mapError (.selector r.expression)
  := by
  rw [FieldRuleSpec.build]
  cases Selector.build r.kind r.expression <;> rfl

/-- A field that has a rule, and of one kind only, is read to the selector of the rule and then to
what is written into. -/
theorem Field.compile_eq {f : Field ρ} (hkinds : f.conflicting = false) {r : FieldRuleSpec}
    (hrule : f.rule = some r) :
  f.compile
    = r.build.bind fun selector =>
        ((f.slot.sink? r.multi).mapError (.cardinality f.name)).map fun sink =>
          some ⟨f.name, selector, r.source, r.required, sink⟩
  := by
  simp only [Field.compile, hkinds, hrule, Bool.false_eq_true, if_false]
  cases r.build with
  | error e => rfl
  | ok selector => cases f.slot.sink? r.multi <;> rfl

theorem compileFields_cons (f : Field ρ) (fs : List (Field ρ)) :
  compileFields (f :: fs) = f.compile.bind fun r => (compileFields fs).map (r.toList ++ ·)
  := by
  rw [compileFields]
  cases f.compile <;> rfl

theorem Schema.compile_eq (s : Schema ρ) :
  s.compile
    = (UrlRuleSet.target s.targetUrl).bind fun target =>
        (UrlRuleSet.help s.helpUrl).bind fun help =>
          (compileFields s.fields).map fun rules =>
            ⟨s.name, target, help, rules, s.factory, s.afterExtract⟩
  := by
  rw [Schema.compile]
  cases UrlRuleSet.target s.targetUrl with
  | error e => rfl
  | ok target => cases UrlRuleSet.help s.helpUrl <;> rfl

/-! ### Rules for URLs -/

theorem reportsFirst_compileGlob (glob : String) :
  ReportsFirst (compileGlob glob) (globFaults glob)
  := by
  unfold compileGlob globFaults
  cases Regex.Pattern.compile? .default (anchoredSource (globSource glob)) with
  | none => exact reportsFirst_error _ _
  | some p => exact reportsFirst_ok p

theorem reportsFirst_compileGlobs (globs : List String) :
  ReportsFirst (compileGlobs globs) (globs.flatMap globFaults)
  := by
  induction globs with
  | nil => exact reportsFirst_ok []
  | cons glob globs ih =>
      rw [compileGlobs_cons, List.flatMap_cons]
      exact (reportsFirst_compileGlob glob).bind fun p _ => ih.map (p :: ·)

theorem reportsFirst_ofPath (path : String) :
  ReportsFirst ((Selector.ofPath path).mapError (.selector path)) (pathFaults path)
  := by
  unfold Selector.ofPath pathFaults
  cases XPath.Path.parse path with
  | error fault => exact reportsFirst_error _ _
  | ok p => exact reportsFirst_ok _

theorem reportsFirst_compileRegion (r : UrlRule) :
  ReportsFirst (compileRegion r.regionPath?)
    ((r.sourceRegion.toList.filter fun path => !Unicode.isBlankText path).flatMap
      fun path => pathFaults (Unicode.trimText path))
  := by
  unfold UrlRule.regionPath?
  cases r.sourceRegion with
  | none => exact reportsFirst_ok none
  | some path =>
      cases hblank : Unicode.isBlankText path with
      | true =>
          simp only [Option.toList_some, List.filter_cons, hblank, Bool.not_true, if_false,
            Bool.false_eq_true, List.filter_nil, List.flatMap_nil, if_true]
          exact reportsFirst_ok none
      | false =>
          simp only [Option.toList_some, List.filter_cons, hblank, Bool.not_false, if_true,
            Bool.false_eq_true, List.filter_nil, List.flatMap_singleton, if_false,
            compileRegion_some]
          exact (reportsFirst_ofPath (Unicode.trimText path)).map some

theorem reportsFirst_ruleSet (r : UrlRule) :
  ReportsFirst (UrlRuleSet.compile r) r.faults
  := by
  rw [UrlRuleSet.compile_eq]
  exact (reportsFirst_compileGlobs r.globs).bind fun _ _ => (reportsFirst_compileRegion r).map _

/-- The pattern that stands in for a rule for target URLs is one. -/
theorem reportsFirst_anyUrl :
  ReportsFirst UrlRuleSet.anyUrl []
  := by
  have h : (Regex.Pattern.compile? .default (anchoredSource ".*")).isSome = true := by
    decide +kernel
  obtain ⟨p, hp⟩ := Option.isSome_iff_exists.1 h
  rw [UrlRuleSet.anyUrl, hp]
  exact reportsFirst_ok p

theorem reportsFirst_target (rule : Option UrlRule) :
  ReportsFirst (UrlRuleSet.target rule) (rule.toList.flatMap UrlRule.faults)
  := by
  cases rule with
  | none =>
      rw [UrlRuleSet.target]
      exact reportsFirst_anyUrl.map _
  | some r =>
      rw [UrlRuleSet.target, Option.toList_some, List.flatMap_singleton]
      exact reportsFirst_ruleSet r

theorem reportsFirst_help (rule : Option UrlRule) :
  ReportsFirst (UrlRuleSet.help rule) (rule.toList.flatMap UrlRule.faults)
  := by
  cases rule with
  | none => exact reportsFirst_ok _
  | some r =>
      rw [UrlRuleSet.help, Option.toList_some, List.flatMap_singleton]
      exact reportsFirst_ruleSet r

/-! ### Fields -/

theorem reportsFirst_build (r : FieldRuleSpec) :
  ReportsFirst r.build (selectorFaults r.kind r.expression)
  := by
  rw [FieldRuleSpec.build_eq]
  generalize r.expression = expression
  unfold Selector.build selectorFaults
  cases r.kind with
  | css =>
      simp only [Selector.ofCss]
      cases Css.parseSelectors expression with
      | none => exact reportsFirst_error _ _
      | some selectors => exact reportsFirst_ok _
  | regex =>
      simp only [Selector.ofPattern]
      split
      · exact reportsFirst_error _ _
      · cases Regex.Pattern.compile? .forSelecting expression with
        | none => exact reportsFirst_error _ _
        | some p => exact reportsFirst_ok _
  | xpath => exact reportsFirst_ofPath expression
  | xpath2 => exact reportsFirst_ofPath expression

theorem reportsFirst_sink? (slot : Slot ρ) (field : String) (multi : Bool) :
  ReportsFirst ((slot.sink? multi).mapError (.cardinality field))
    (if slot.takes multi then [] else [.cardinality field (if multi then .list else .single)])
  := by
  cases slot <;> cases multi <;> first | exact reportsFirst_ok _ | exact reportsFirst_error _ _

theorem reportsFirst_compileField (f : Field ρ) :
  ReportsFirst f.compile f.faults
  := by
  unfold Field.faults
  cases hkinds : f.conflicting with
  | true =>
      rw [Field.compile, if_pos hkinds]
      exact reportsFirst_error _ _
  | false =>
      cases hrule : f.rule with
      | none =>
          rw [Field.compile, hkinds, hrule]
          exact reportsFirst_ok none
      | some r =>
          rw [Field.compile_eq hkinds hrule, Option.toList_some, List.flatMap_singleton]
          exact (reportsFirst_build r).bind fun selector _ =>
            (reportsFirst_sink? f.slot f.name r.multi).map _

theorem reportsFirst_compileFields (fields : List (Field ρ)) :
  ReportsFirst (compileFields fields) (fields.flatMap Field.faults)
  := by
  induction fields with
  | nil => exact reportsFirst_ok []
  | cons f fs ih =>
      rw [compileFields_cons, List.flatMap_cons]
      exact (reportsFirst_compileField f).bind fun r _ => ih.map (r.toList ++ ·)

theorem reportsFirst_compile (s : Schema ρ) :
  ReportsFirst s.compile s.faults
  := by
  rw [Schema.compile_eq, Schema.faults, List.append_assoc]
  exact (reportsFirst_target s.targetUrl).bind fun target _ =>
    (reportsFirst_help s.helpUrl).bind fun help _ =>
      (reportsFirst_compileFields s.fields).map _

end PageModel
