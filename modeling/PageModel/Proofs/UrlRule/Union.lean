import PageModel.Proofs.Extractor.Compiling

/-!
# Rules as unions of their globs

A declared rule is compiled if each of its globs that is not blank has a pattern and its region, if
there is one, is a location path; and then a URL is in the set of the rule if and only if one of these
globs matches it. So only the set of globs matters, and not their order, their number or the blank ones
among them (`UrlRuleSet.declared_union_of_globs`). A rule of blank globs is declared and has no URL.
-/

namespace PageModel

/-- Whether a glob by itself matches a URL: it has a pattern, and the URL is matched by it. -/
def GlobHasUrl (glob url : String) : Prop :=
  ∃ p, compileGlob glob = .ok p ∧ p.isMatch url = true

/-- Rules that have a set of URLs: every glob that is not blank has a pattern, and a region that is not
blank is a location path. -/
structure UrlRule.IsReadable (r : UrlRule) : Prop where
  globs : ∀ glob ∈ r.patterns, Unicode.isBlankText glob = false → ∃ p, compileGlob glob = .ok p
  region : ∀ path ∈ r.sourceRegion, Unicode.isBlankText path = false →
    ∃ p, XPath.Path.parse (Unicode.trimText path) = .ok p

/-! ### Which rules have a set -/

theorem globFaults_eq_nil_iff {glob : String} :
  globFaults glob = [] ↔ ∃ p, compileGlob glob = .ok p
  := (reportsFirst_compileGlob glob).exists_ok_iff.symm

theorem pathFaults_eq_nil_iff {path : String} :
  pathFaults path = [] ↔ ∃ p, XPath.Path.parse path = .ok p
  := by
  rw [pathFaults]
  cases XPath.Path.parse path with
  | error fault => simp
  | ok p => simp

theorem UrlRule.isReadable_iff {r : UrlRule} :
  r.IsReadable ↔ r.faults = []
  := by
  rw [faults, List.append_eq_nil_iff, List.flatMap_eq_nil_iff, List.flatMap_eq_nil_iff]
  simp only [List.mem_filter, Bool.not_eq_true', and_imp, globFaults_eq_nil_iff,
    pathFaults_eq_nil_iff, Option.mem_toList]
  constructor
  · rintro ⟨hglobs, hregion⟩
    exact ⟨hglobs, hregion⟩
  · rintro ⟨hglobs, hregion⟩
    exact ⟨hglobs, hregion⟩

theorem UrlRuleSet.exists_compile_iff {r : UrlRule} :
  (∃ s, UrlRuleSet.compile r = .ok s) ↔ r.IsReadable
  := by
  rw [UrlRule.isReadable_iff]
  exact (reportsFirst_ruleSet r).exists_ok_iff

/-! ### Which URLs a set has -/

theorem compileGlobs_eq_ok {globs : List String} {patterns : List Regex.Pattern}
    (h : compileGlobs globs = .ok patterns) :
  List.Forall₂ (fun glob p => compileGlob glob = .ok p) globs patterns
  := by
  induction globs generalizing patterns with
  | nil =>
      obtain rfl := Except.ok.inj h
      exact .nil
  | cons glob globs ih =>
      rw [compileGlobs_cons] at h
      obtain ⟨p, hp, h⟩ := exists_of_bind_eq_ok h
      obtain ⟨ps, hps, rfl⟩ := exists_of_map_eq_ok h
      exact .cons hp (ih hps)

theorem any_isMatch_iff {globs : List String} {patterns : List Regex.Pattern}
    (h : List.Forall₂ (fun glob p => compileGlob glob = .ok p) globs patterns) (url : String) :
  (patterns.any fun p => p.isMatch url) = true ↔ ∃ glob ∈ globs, GlobHasUrl glob url
  := by
  induction h with
  | nil => simp
  | @cons glob p globs patterns hp _ ih =>
      have hglob : GlobHasUrl glob url ↔ p.isMatch url = true := by
        rw [GlobHasUrl, hp]
        simp
      rw [List.any_cons, Bool.or_eq_true, ih, ← hglob, List.exists_mem_cons_iff]

/-- The parts of the set of a rule. -/
theorem UrlRuleSet.parts_of_compile {r : UrlRule} {s : UrlRuleSet}
    (h : UrlRuleSet.compile r = .ok s) :
  compileGlobs r.globs = .ok s.patterns ∧ compileRegion r.regionPath? = .ok s.region ∧
    s.configured = true
  := by
  rw [UrlRuleSet.compile_eq] at h
  obtain ⟨patterns, hpatterns, h⟩ := exists_of_bind_eq_ok h
  obtain ⟨region, hregion, rfl⟩ := exists_of_map_eq_ok h
  exact ⟨hpatterns, hregion, rfl⟩

theorem UrlRuleSet.isMatch_compile_iff {r : UrlRule} {s : UrlRuleSet}
    (h : UrlRuleSet.compile r = .ok s) (url : String) :
  s.isMatch url = true ↔
    ∃ glob ∈ r.patterns, Unicode.isBlankText glob = false ∧ GlobHasUrl glob url
  := by
  obtain ⟨hpatterns, -, -⟩ := parts_of_compile h
  rw [isMatch, any_isMatch_iff (compileGlobs_eq_ok hpatterns)]
  simp only [UrlRule.globs, List.mem_filter, Bool.not_eq_true', and_assoc]

/-! ### Rules with other globs -/

/-- Globs that have a pattern may be added to a rule, and globs may be left out. -/
theorem UrlRuleSet.exists_compile_of_globs {r : UrlRule} {s : UrlRuleSet}
    (h : UrlRuleSet.compile r = .ok s) (patterns : List String)
    (hglobs : ∀ glob ∈ patterns, Unicode.isBlankText glob = false →
      glob ∈ r.patterns ∨ ∃ p, compileGlob glob = .ok p) :
  ∃ s', UrlRuleSet.compile { r with patterns } = .ok s'
  := by
  have hreadable := exists_compile_iff.1 ⟨s, h⟩
  apply exists_compile_iff.2
  constructor
  · intro glob hmem hblank
    rcases hglobs glob hmem hblank with hold | hnew
    · apply hreadable.globs glob hold hblank
    · exact hnew
  · exact hreadable.region

theorem UrlRuleSet.isMatch_mono {r r' : UrlRule} {s s' : UrlRuleSet}
    (h : UrlRuleSet.compile r = .ok s) (h' : UrlRuleSet.compile r' = .ok s')
    (hsub : ∀ glob ∈ r.patterns, Unicode.isBlankText glob = false → glob ∈ r'.patterns)
    {url : String} (hurl : s.isMatch url = true) :
  s'.isMatch url = true
  := by
  obtain ⟨glob, hmem, hblank, hhas⟩ := (isMatch_compile_iff h url).1 hurl
  apply (isMatch_compile_iff h' url).2
  use glob, hsub glob hmem hblank, hblank

/-- A page that is no target is left as it is, and no code of the schema is called. -/
theorem Extractor.run_of_isMatch_eq_false {ρ : Type} {x : Extractor ρ} {page : Page}
    (h : x.target.isMatch page.url = false) :
  x.run page = ⟨.ok none, page, []⟩
  := by
  rw [run, h]
  rfl

theorem exists_error_iff {ε α : Type} {x : Except ε α} :
  (∃ e, x = .error e) ↔ ¬ ∃ a, x = .ok a
  := by
  cases x with
  | error e => simp
  | ok a => simp

theorem UrlRule.not_isReadable_iff {r : UrlRule} :
  ¬ r.IsReadable ↔
    (∃ glob ∈ r.patterns, Unicode.isBlankText glob = false ∧ ¬ ∃ p, compileGlob glob = .ok p) ∨
    ∃ path ∈ r.sourceRegion, Unicode.isBlankText path = false ∧
      ¬ ∃ p, XPath.Path.parse (Unicode.trimText path) = .ok p
  := by
  constructor
  · intro h
    by_contra hnone
    apply h
    simp only [not_or, not_exists, not_and] at hnone
    obtain ⟨hglobs, hregion⟩ := hnone
    constructor
    · intro glob hmem hblank
      simpa using hglobs glob hmem hblank
    · intro path hmem hblank
      simpa using hregion path hmem hblank
  · rintro (⟨glob, hmem, hblank, hglob⟩ | ⟨path, hmem, hblank, hpath⟩) hreadable
    · apply hglob (hreadable.globs glob hmem hblank)
    · apply hpath (hreadable.region path hmem hblank)

/-- A declared rule, of targets or of pages to visit, has no set if and only if one of its globs that are
not blank has no pattern, or its region, if it is not blank, is no location path. The set of a rule is
the union of what these globs match by themselves. So it does not change with their order or their
number or with blank globs, and it loses no URL by another glob that has a pattern. A rule of blank
globs has no URL, not even the empty one, and an extractor with such targets leaves every page as it
is, without a call of the code that starts a record. -/
theorem UrlRuleSet.declared_union_of_globs (r : UrlRule) :
  UrlRuleSet.target (some r) = UrlRuleSet.help (some r) ∧
    ((∃ e, UrlRuleSet.target (some r) = .error e) ↔
      (∃ glob ∈ r.patterns, Unicode.isBlankText glob = false ∧ ¬ ∃ p, compileGlob glob = .ok p) ∨
      ∃ path ∈ r.sourceRegion, Unicode.isBlankText path = false ∧
        ¬ ∃ p, XPath.Path.parse (Unicode.trimText path) = .ok p) ∧
    ∀ s, UrlRuleSet.target (some r) = .ok s →
      s.configured = true ∧
      (∀ url, s.isMatch url = true ↔
        ∃ glob ∈ r.patterns, Unicode.isBlankText glob = false ∧ GlobHasUrl glob url) ∧
      (∀ patterns : List String,
        (∀ glob, Unicode.isBlankText glob = false → (glob ∈ patterns ↔ glob ∈ r.patterns)) →
          ∃ s', UrlRuleSet.target (some { r with patterns }) = .ok s' ∧
            ∀ url, s'.isMatch url = s.isMatch url) ∧
      (∀ patterns : List String, r.patterns ⊆ patterns →
        (∀ glob ∈ patterns, glob ∈ r.patterns ∨ ∃ p, compileGlob glob = .ok p) →
          ∃ s', UrlRuleSet.target (some { r with patterns }) = .ok s' ∧
            ∀ url, s.isMatch url = true → s'.isMatch url = true) ∧
      ((∀ glob ∈ r.patterns, Unicode.isBlankText glob = true) →
        (∀ url, s.isMatch url = false) ∧
          ∀ {ρ : Type} (schema : Schema ρ) (x : Extractor ρ), schema.targetUrl = some r →
            schema.compile = .ok x → ∀ page, x.run page = ⟨.ok none, page, []⟩)
  := by
  refine ⟨rfl, ?_, ?_⟩
  · rw [exists_error_iff, ← UrlRule.not_isReadable_iff, ← exists_compile_iff]
    rfl
  intro s hs
  obtain ⟨-, -, hconfigured⟩ := parts_of_compile hs
  refine ⟨hconfigured, isMatch_compile_iff hs, ?_, ?_, ?_⟩
  · intro patterns hsame
    obtain ⟨s', hs'⟩ := exists_compile_of_globs hs patterns
      fun glob hmem hblank => .inl ((hsame glob hblank).1 hmem)
    use s', hs'
    intro url
    rw [Bool.eq_iff_iff]
    constructor
    · apply isMatch_mono hs' hs fun glob hmem hblank => (hsame glob hblank).1 hmem
    · apply isMatch_mono hs hs' fun glob hmem hblank => (hsame glob hblank).2 hmem
  · intro patterns hsub hglobs
    obtain ⟨s', hs'⟩ := exists_compile_of_globs hs patterns
      fun glob hmem _ => hglobs glob hmem
    use s', hs'
    intro url
    apply isMatch_mono hs hs' fun glob hmem _ => hsub hmem
  · intro hblanks
    have hnone (url : String) : s.isMatch url = false := by
      rw [← Bool.not_eq_true, isMatch_compile_iff hs]
      rintro ⟨glob, hmem, hblank, -⟩
      rw [hblanks glob hmem] at hblank
      cases hblank
    use hnone
    intro ρ schema x hrule hx page
    obtain ⟨-, htarget, -⟩ := Schema.parts_of_compile hx
    rw [hrule, hs] at htarget
    apply Extractor.run_of_isMatch_eq_false
    rw [← Except.ok.inj htarget]
    apply hnone

end PageModel
