import PageModel.Proofs.Model.Extraction
import PageModel.Proofs.Regex.Whole
import PageModel.Proofs.Selector.Pattern

/-!
# Rules that take the whole URL

A rule about URLs whose value is blank stands for a pattern that repeats every character, line breaks
among them. Of any text it selects the text, and altogether nothing but the text
(`select_whole`, `selectAll_whole`). So a field with such a rule gets the URL of the page, and as there
is always a URL, if only an empty one, the page never lacks the value (`AddressRule.blank_takes_url`).
-/

namespace PageModel

open Regex

variable {ρ : Type}

/-! ### The pattern of every text -/

/-- The pattern that a blank value stands for. -/
def Regex.Pattern.whole : Pattern :=
  ⟨".*", .many .all⟩

theorem compile?_whole :
  Pattern.compile? .forSelecting ".*" = some .whole
  := by
  decide +kernel

theorem ofPattern_whole :
  Selector.ofPattern ".*" = .ok ⟨".*", .pattern .whole⟩
  := by
  have hblank : Unicode.isBlankText ".*" = false := by decide +kernel
  rw [Selector.ofPattern, hblank, compile?_whole]
  rfl

theorem searchAll_whole (text : String) :
  searchAll Pattern.whole.expr text.toList = [#[some 0, some text.toList.length]]
  := searchAll_many fun c _ => CharSet.contains_all c

theorem select_whole (text : String) :
  Selector.select ⟨".*", .pattern .whole⟩ text = some text
  := by
  rw [select_pattern_eq, searchAll_whole, List.head?_cons, Option.bind_some]
  apply groupText_whole

theorem selectAll_whole (text : String) :
  Selector.selectAll ⟨".*", .pattern .whole⟩ text = [text]
  := by
  change (searchAll Pattern.whole.expr text.toList).filterMap (groupText text.toList · 0) = [text]
  rw [searchAll_whole]
  apply List.filterMap_cons_some
  apply groupText_whole

/-! ### Rules with a blank value -/

/-- The URL of a page as a value of a rule. -/
def AddressRule.urlOf (a : AddressRule) (page : Page) : FieldValue :=
  if a.multi then .list [page.url] else .text (some page.url)

variable {a : AddressRule}

theorem AddressRule.pattern_eq_of_blank (h : Unicode.isBlankText a.value = true) :
  a.pattern = ".*"
  := by
  rw [pattern, if_pos h]

/-- A rule with a blank value selects the URL of every page, and nothing else. -/
theorem AddressRule.selects_iff_of_blank (h : Unicode.isBlankText a.value = true) (page : Page)
    (value : FieldValue) :
  (FieldRuleSpec.address a).Selects page value ↔ value = a.urlOf page
  := by
  have hvalue : Selector.fieldValue ⟨".*", .pattern .whole⟩ a.multi page.url = a.urlOf page := by
    rw [Selector.fieldValue, select_whole, selectAll_whole, urlOf]
  rw [FieldRuleSpec.Selects, pattern_eq_of_blank h, ofPattern_whole, ← hvalue]
  constructor
  · rintro ⟨s, ⟨⟩, hs⟩
    exact hs
  · intro hv
    use ⟨".*", .pattern .whole⟩

theorem AddressRule.isMissing_urlOf (a : AddressRule) (page : Page) :
  (a.urlOf page).isMissing = false
  := by
  unfold urlOf
  cases a.multi <;> rfl

/-- A field with a blank rule is compiled if it takes as many values as the rule has. -/
theorem Field.exists_compile_iff_of_blank {f : Field ρ} (hkinds : f.conflicting = false)
    (hrule : f.rule = some (.address a)) (h : Unicode.isBlankText a.value = true) :
  (∃ r, f.compile = .ok (some r)) ↔ f.slot.takes a.multi = true
  := by
  have hbuild : (FieldRuleSpec.address a).build = .ok ⟨".*", .pattern .whole⟩ := by
    have hselector : Selector.build (FieldRuleSpec.address a).kind a.pattern
        = .ok ⟨".*", .pattern .whole⟩ := by
      rw [a.pattern_eq_of_blank h]
      apply ofPattern_whole
    rw [FieldRuleSpec.build, FieldRuleSpec.expression, hselector]
  rw [Field.compile_eq hkinds hrule, hbuild]
  change (∃ r, ((f.slot.sink? a.multi).mapError _).map _ = _) ↔ _
  cases f.slot <;> cases a.multi <;> simp [Slot.sink?, Slot.takes, Except.map, Except.mapError]

/-! ### Fields of a schema -/

/-- A rule writes the URL of a page into the field that it was compiled from. -/
theorem FieldRule.Implements.writes_url {r : FieldRule ρ} {f : Field ρ}
    (h : r.Implements f (.address a)) (hblank : Unicode.isBlankText a.value = true) :
  (a.multi = false → ∃ w, f.slot = .text w ∧
    ∀ record page, r.write record page = w.write f.name .text record (some page.url)) ∧
  (a.multi = true → ∃ w, f.slot = .list w ∧
    ∀ record page, r.write record page = w.write f.name .list record [page.url])
  := by
  have hvalue (page : Page) : a.urlOf page = r.value page := by
    rw [← h.selects_iff, AddressRule.selects_iff_of_blank hblank]
  have hmulti : r.multi = a.multi := h.multi
  have hslot := h.slot
  unfold AddressRule.urlOf FieldRule.value at hvalue
  unfold FieldRule.multi at hmulti
  unfold FieldRule.write
  rw [h.name]
  cases hsink : r.sink with
  | text w =>
      rw [hsink] at hvalue hmulti hslot
      simp only [← hmulti, Bool.false_eq_true, if_false, FieldValue.text.injEq] at hvalue
      constructor
      · intro _
        use w, hslot.symm
        intro record page
        rw [← hvalue]
      · intro hlist
        cases hmulti.trans hlist
  | list w =>
      rw [hsink] at hvalue hmulti hslot
      simp only [← hmulti, if_true, FieldValue.list.injEq] at hvalue
      constructor
      · intro htext
        cases hmulti.trans htext
      · intro _
        use w, hslot.symm
        intro record page
        rw [← hvalue]

/-- A page that a run leaves with the mark had it before, or lacks what one of the rules requires. -/
theorem Extractor.exists_lacks_of_skip {x : Extractor ρ} {page : Page}
    (h : (x.tryApply page).2.skip = true) :
  page.skip = true ∨ ∃ r ∈ x.rules, r.lacks page = true
  := by
  obtain ⟨stop, hstop⟩ := x.exists_stopsAt page
  rw [tryApply_of_stopsAt hstop, Page.markedBy_skip, Bool.or_eq_true, List.any_eq_true] at h
  apply h.imp_right
  rintro ⟨r, hr, hlacks⟩
  use r, ?_, hlacks
  cases hstop with
  | noTarget => cases hr
  | factory => cases hr
  | writer hrules =>
      rw [hrules]
      apply List.mem_append_left _ hr
  | hook => exact hr
  | finished => exact hr

/-- The rule of a field among those that a schema is compiled to. -/
theorem ImplementFields.exists_of_mem {rules : List (FieldRule ρ)} {fields : List (Field ρ)}
    (h : ImplementFields rules fields) {f : Field ρ} (hf : f ∈ fields) {spec : FieldRuleSpec}
    (hrule : f.rule = some spec) :
  ∃ before r after, rules = before ++ r :: after ∧ r.Implements f spec
  := by
  have hmem : (f, spec) ∈ ruledFields fields := by
    apply List.mem_filterMap.2
    use f, hf
    rw [hrule]
    rfl
  rw [ImplementFields] at h
  generalize ruledFields fields = declared at h hmem
  induction h with
  | nil => cases hmem
  | @cons r p rules declared hr _ ih =>
      rcases List.mem_cons.1 hmem with rfl | hmem
      · use [], r, rules, rfl
      · obtain ⟨before, r', after, rfl, hr'⟩ := ih hmem
        use r :: before, r', after, rfl

/-- A rule about URLs with a blank value takes the whole URL, whatever characters stand in it. A field
that has the rule, and none about the text of pages, is compiled if and only if it takes as many values
as the rule has. In an extractor the rule writes the URL into a field that takes one text, and the list
of only the URL into a field that takes a list. It never lacks a value on a page, so that a run can only
mark a page because of another rule. -/
theorem AddressRule.blank_takes_url (h : Unicode.isBlankText a.value = true) :
  (∀ page value, (FieldRuleSpec.address a).Selects page value ↔
    value = if a.multi then .list [page.url] else .text (some page.url)) ∧
  (∀ f : Field ρ, f.conflicting = false → f.rule = some (.address a) →
    ((∃ r, f.compile = .ok (some r)) ↔ f.slot.takes a.multi = true)) ∧
  ∀ (s : Schema ρ) x f, s.compile = .ok x → f ∈ s.fields → f.rule = some (.address a) →
    ∃ before r after, x.rules = before ++ r :: after ∧ r.Implements f (.address a) ∧
      (a.multi = false → ∃ w, f.slot = .text w ∧
        ∀ record page, r.write record page = w.write f.name .text record (some page.url)) ∧
      (a.multi = true → ∃ w, f.slot = .list w ∧
        ∀ record page, r.write record page = w.write f.name .list record [page.url]) ∧
      ∀ page, r.lacks page = false ∧
        ((x.tryApply page).2.skip = true →
          page.skip = true ∨ ∃ other ∈ before ++ after, other.lacks page = true)
  := by
  refine ⟨selects_iff_of_blank h, fun f hkinds hrule =>
    Field.exists_compile_iff_of_blank hkinds hrule h, ?_⟩
  intro s x f hcompile hf hrule
  obtain ⟨-, -, -, hrules, -, -⟩ := Schema.parts_of_compile hcompile
  obtain ⟨before, r, after, hsplit, hr⟩ :=
    (implementFields_of_compileFields hrules).exists_of_mem hf hrule
  have hlacks (page : Page) : r.lacks page = false := by
    have hvalue : a.urlOf page = r.value page := by
      rw [← hr.selects_iff, selects_iff_of_blank h]
    rw [FieldRule.lacks, ← hvalue, a.isMissing_urlOf, Bool.and_false]
  obtain ⟨htext, hlist⟩ := hr.writes_url h
  refine ⟨before, r, after, hsplit, hr, htext, hlist, fun page => ⟨hlacks page, ?_⟩⟩
  intro hskip
  apply (Extractor.exists_lacks_of_skip hskip).imp_right
  rintro ⟨other, hmem, hother⟩
  rw [hsplit] at hmem
  use other, ?_, hother
  rcases List.mem_append.1 hmem with hbefore | hmem
  · exact List.mem_append_left _ hbefore
  · rcases List.mem_cons.1 hmem with rfl | hafter
    · rw [hlacks page] at hother
      cases hother
    · exact List.mem_append_right _ hafter

/-- A schema that takes the URL of a page as a text and, by a required rule that is white space only,
as a list. -/
def addressed : Schema (Option String × List String) where
  name := "address"
  fields :=
    [(Field.text "url" fun record v => (v, record.2)).extractByUrl ⟨"", false, false⟩,
      (Field.list "urls" fun record vs => (record.1, vs)).extractByUrl ⟨" \t\n", true, true⟩]
  factory := .ok (none, [])

/-- The list holds the whole URL once, although the URL goes on after a line break. -/
theorem addressed_takes_url :
  Unicode.isBlankText " \t\n" = true ∧
    ∃ x before r after, addressed.compile = .ok x ∧ x.rules = before ++ r :: after ∧
      (r.write (none, []) ⟨"http://site/q\n7", "", false⟩).1 = .ok (none, ["http://site/q\n7"]) ∧
      r.lacks ⟨"", "", false⟩ = false
  := by
  have hblank : Unicode.isBlankText " \t\n" = true := by decide +kernel
  have hcompile : addressed.compile.isOk = true := by decide +kernel
  obtain ⟨x, hx⟩ := exists_of_isOk hcompile
  obtain ⟨-, -, hfield⟩ := AddressRule.blank_takes_url (a := ⟨" \t\n", true, true⟩) hblank
  obtain ⟨before, r, after, hrules, -, -, hlist, hlacks⟩ :=
    hfield addressed x _ hx (List.mem_cons_of_mem _ List.mem_cons_self) rfl
  obtain ⟨w, hslot, hwrite⟩ := hlist rfl
  refine ⟨hblank, x, before, r, after, hx, hrules, ?_, (hlacks _).1⟩
  obtain rfl := Slot.list.inj hslot
  rw [hwrite]
  rfl

end PageModel
