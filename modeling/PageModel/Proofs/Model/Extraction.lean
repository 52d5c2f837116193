import Mathlib.Tactic.Use
import PageModel.Model.Spec
import PageModel.Proofs.Extractor.Compiling
import PageModel.Proofs.Extractor.Stop

/-!
# What a model extracts

A model that can be compiled never fails on a page whose URL is a target. Each of its rules writes
what it selects into the field of its name (`FieldRule.Fills`), so that in the end a field holds what
the last rule of its name selects; a rule that selects nothing marks the page if it is required, even
if a later rule writes into the same field.
-/

namespace PageModel

/-! ### What a model says -/

/-- The rule of a declared field, which has rules of one kind only. -/
def FieldSpec.rule? (f : FieldSpec) : Option FieldRuleSpec :=
  (f.extractBy.map .body).or (f.extractByUrl.map .address)

/-- The rules of a model in their order, each with the name of its field. -/
def ModelSpec.rules (m : ModelSpec) : List (String × FieldRuleSpec) :=
  m.fields.filterMap fun f => f.rule?.map fun r => (f.name, r)

/-- What a selector selects from a text: all values, if `multi` holds, or else the first one. -/
def Selector.fieldValue (s : Selector) (multi : Bool) (text : String) : FieldValue :=
  if multi then .list (s.selectAll text) else .text (s.select text)

/-- The relation of a rule with what it selects on a page: from its HTML text, or from its URL. -/
def FieldRuleSpec.Selects : FieldRuleSpec → Page → FieldValue → Prop
  | .body r, page, value =>
      ∃ s, Selector.build r.kind r.value = .ok s ∧ value = s.fieldValue r.multi page.html
  | .address r, page, value =>
      ∃ s, Selector.ofPattern r.pattern = .ok s ∧ value = s.fieldValue r.multi page.url

/-- The value of a field as it stands in a record. -/
def FieldValue.toJson : FieldValue → Json.Value
  | .text (some s) => .string s
  | .text none => .null
  | .list vs => .array (vs.map .string)

/-! ### Fields -/

/-- What a field of a record takes is written under its name, without a writer. -/
theorem slot_recordField (name fieldType : String) :
  (recordField name fieldType).slot = .text ⟨fun r v => r.setText name v, none⟩ ∨
    (recordField name fieldType).slot = .list ⟨fun r vs => r.setList name vs, none⟩ ∨
    ∃ typeName, (recordField name fieldType).slot = .other typeName
  := by
  unfold recordField
  simp only
  split
  · exact .inl rfl
  · split
    · exact .inr (.inl rfl)
    · exact .inr (.inr ⟨_, rfl⟩)

theorem name_recordField (name fieldType : String) :
  (recordField name fieldType).name = name
  := by
  unfold recordField
  simp only
  split
  · rfl
  · split <;> rfl

theorem rule_recordField (name fieldType : String) :
  (recordField name fieldType).rule = none
  := by
  unfold recordField
  simp only
  split
  · rfl
  · split <;> rfl

/-- A declared field stands for one with its rule. -/
theorem FieldSpec.parts_of_toField {f : FieldSpec} {field : Field Record}
    (h : f.toField = .ok field) :
  field.name = f.name ∧ field.rule = f.rule? ∧
    field.slot = (recordField f.name f.fieldType).slot
  := by
  have hname := name_recordField f.name f.fieldType
  have hrule := rule_recordField f.name f.fieldType
  unfold FieldSpec.rule?
  simp only [FieldSpec.toField] at h
  generalize recordField f.name f.fieldType = empty at h hname hrule ⊢
  split at h
  · cases h
  · next r hbody haddress =>
    obtain rfl := Except.ok.inj h
    rw [hbody, haddress]
    exact ⟨hname, rfl, rfl⟩
  · next r hbody haddress =>
    obtain rfl := Except.ok.inj h
    rw [hbody, haddress]
    exact ⟨hname, rfl, rfl⟩
  · next hbody haddress =>
    obtain rfl := Except.ok.inj h
    rw [hbody, haddress]
    exact ⟨hname, hrule, rfl⟩

/-! ### Rules -/

theorem setText_eq_set (record : Record) (name : String) (value : Option String) :
  record.setText name value = record.set name (FieldValue.text value).toJson
  := by
  cases value <;> rfl

theorem toFields_cons (f : FieldSpec) (fs : List FieldSpec) :
  toFields (f :: fs) = f.toField.bind fun field => (toFields fs).map (field :: ·)
  := by
  rw [toFields]
  cases f.toField <;> rfl

/-- The relation of a rule that can be applied to pages with the name and the rule of a declared
field: it writes what the rule selects under the name, and does nothing else. -/
structure FieldRule.Fills (r : FieldRule Record) (name : String) (spec : FieldRuleSpec) : Prop where
  required : r.required = spec.required
  selects : ∀ page value, spec.Selects page value ↔ value = r.value page
  effects : ∀ page, r.effects page =
    [⟨.assign name (r.value page), fun record => .ok (record.set name (r.value page).toJson)⟩]

/-- What a rule selects is determined by what was declared. -/
theorem FieldRule.Implements.selects_iff {ρ : Type} {r : FieldRule ρ} {f : Field ρ}
    {spec : FieldRuleSpec} (h : r.Implements f spec) (page : Page) (value : FieldValue) :
  spec.Selects page value ↔ value = r.value page
  := by
  have hvalue : r.value page = r.selector.fieldValue spec.multi (r.input page) := by
    rw [← h.multi, FieldRule.value, FieldRule.multi, Selector.fieldValue]
    cases r.sink <;> rfl
  have hselects : spec.Selects page value ↔
      ∃ s, Selector.build spec.kind spec.expression = .ok s ∧
        value = s.fieldValue spec.multi (r.input page) := by
    have hsource := h.source
    cases spec with
    | body b =>
        have hinput : r.input page = page.html := by
          rw [FieldRule.input, hsource]
          rfl
        rw [hinput]
        exact Iff.rfl
    | address a =>
        have hinput : r.input page = page.url := by
          rw [FieldRule.input, hsource]
          rfl
        rw [hinput]
        exact Iff.rfl
  rw [hselects, hvalue, h.selector]
  constructor
  · rintro ⟨s, hs, rfl⟩
    rw [Except.ok.inj hs]
  · intro hv
    exact ⟨r.selector, rfl, hv⟩

theorem FieldRule.Implements.fills {r : FieldRule Record} {field : Field Record}
    {spec : FieldRuleSpec} (h : r.Implements field spec) {f : FieldSpec}
    (hf : f.toField = .ok field) :
  r.Fills f.name spec
  where
  required := h.required
  selects := h.selects_iff
  effects := by
    intro page
    obtain ⟨hname, -, hslot⟩ := FieldSpec.parts_of_toField hf
    have hslot := h.slot.trans hslot
    unfold FieldRule.effects FieldRule.value
    rw [h.name, hname]
    rcases slot_recordField f.name f.fieldType with htext | hlist | ⟨typeName, hother⟩
    · rw [Sink.eq_text_of_slot (hslot.trans htext)]
      simp only [Writing.effects, setText_eq_set]
      rfl
    · rw [Sink.eq_list_of_slot (hslot.trans hlist)]
      rfl
    · exact absurd (hslot.trans hother) (Sink.slot_ne_other _ _)

/-- The rules that a model is compiled to are those that it declares, in their order. -/
theorem fills_of_compileFields {specs : List FieldSpec} {fields : List (Field Record)}
    {rules : List (FieldRule Record)} (hfields : toFields specs = .ok fields)
    (hrules : ImplementFields rules fields) :
  List.Forall₂ (fun r p => r.Fills p.1 p.2) rules
    (specs.filterMap fun f => f.rule?.map fun r => (f.name, r))
  := by
  induction specs generalizing fields rules with
  | nil =>
      obtain rfl := Except.ok.inj hfields
      cases hrules
      exact .nil
  | cons f specs ih =>
      rw [toFields_cons] at hfields
      obtain ⟨field, hfield, hfields⟩ := exists_of_bind_eq_ok hfields
      obtain ⟨fields, htail, rfl⟩ := exists_of_map_eq_ok hfields
      obtain ⟨-, hrule, -⟩ := FieldSpec.parts_of_toField hfield
      rw [ImplementFields, ruledFields, List.filterMap_cons, hrule] at hrules
      rw [List.filterMap_cons]
      cases hspec : f.rule? with
      | none =>
          rw [hspec] at hrules
          exact ih htail hrules
      | some spec =>
          rw [hspec] at hrules
          cases hrules with
          | cons hr hrules => exact .cons (hr.fills hfield) (ih htail hrules)

/-! ### Records -/

section Record

variable {rules : List (FieldRule Record)} {declared : List (String × FieldRuleSpec)}

/-- Rules that fill fields do not fail, and a field comes to hold what the last rule of its name
selects. -/
theorem exists_record (h : List.Forall₂ (fun r p => r.Fills p.1 p.2) rules declared) (page : Page)
    (record : Record) :
  ∃ record', (perform (rules.flatMap (FieldRule.effects · page)) record).1 = .ok record' ∧
    ∀ name,
      (declared.reverse.lookup name = none → record'.get? name = record.get? name) ∧
      ∀ spec, declared.reverse.lookup name = some spec →
        ∃ value, spec.Selects page value ∧ record'.get? name = some value.toJson
  := by
  induction h generalizing record with
  | nil =>
      use record, rfl
      intro name
      exact ⟨fun _ => rfl, fun spec hspec => by cases hspec⟩
  | @cons r p rules declared hr hrules ih =>
      obtain ⟨field, spec⟩ := p
      obtain ⟨record', hperform, hfields⟩ := ih (record.set field (r.value page).toJson)
      rw [List.flatMap_cons, hr.effects, List.singleton_append, perform]
      use record', hperform
      intro name
      obtain ⟨hnone, hsome⟩ := hfields name
      rw [List.reverse_cons, List.lookup_append, List.lookup_cons, List.lookup_nil]
      cases hlookup : declared.reverse.lookup name with
      | some last =>
          rw [Option.some_or]
          constructor
          · intro hcontra
            cases hcontra
          · rintro spec' ⟨⟩
            exact hsome last hlookup
      | none =>
          rw [Option.none_or, hnone hlookup, Record.get?_set]
          cases hname : name == field with
          | true =>
              rw [if_pos (eq_of_beq hname)]
              constructor
              · intro hcontra
                cases hcontra
              · rintro spec' ⟨⟩
                exact ⟨r.value page, (hr.selects _ _).2 rfl, rfl⟩
          | false =>
              rw [if_neg (beq_eq_false_iff_ne.1 hname)]
              constructor
              · intro _
                rfl
              · intro spec' hcontra
                cases hcontra

/-- Rules that fill fields mark a page if a required one selects nothing. -/
theorem lacks_iff (h : List.Forall₂ (fun r p => r.Fills p.1 p.2) rules declared) (page : Page) :
  (rules.any fun r => r.lacks page) = true ↔
    ∃ p ∈ declared, p.2.required = true ∧
      ∃ value, p.2.Selects page value ∧ value.isMissing = true
  := by
  induction h with
  | nil => simp
  | @cons r p rules declared hr hrules ih =>
      rw [List.any_cons, Bool.or_eq_true, ih, List.exists_mem_cons_iff]
      apply or_congr_left
      rw [FieldRule.lacks, Bool.and_eq_true, hr.required]
      apply and_congr_right
      intro _
      constructor
      · intro hmissing
        exact ⟨r.value page, (hr.selects _ _).2 rfl, hmissing⟩
      · rintro ⟨value, hselects, hmissing⟩
        rwa [(hr.selects _ _).1 hselects] at hmissing

end Record

/-! ### Models -/

/-- The parts of a model that was compiled. -/
theorem ModelSpec.parts_of_compile {m : ModelSpec} {x : Extractor Record} (h : m.compile = .ok x) :
  UrlRuleSet.target m.targetUrl = .ok x.target ∧ x.factory = .ok .empty ∧ x.afterExtract = none ∧
    List.Forall₂ (fun r p => r.Fills p.1 p.2) x.rules m.rules
  := by
  unfold ModelSpec.compile at h
  split at h
  · cases h
  · next schema hschema =>
    obtain ⟨fields, hfields, rfl⟩ := exists_of_map_eq_ok hschema
    obtain ⟨-, htarget, -, hrules, hfactory, hafter⟩ := Schema.parts_of_compile h
    exact ⟨htarget, hfactory, hafter,
      fills_of_compileFields hfields (implementFields_of_compileFields hrules)⟩

/-- A run of the extractor of a model on a page whose URL is a target has the record that its rules
fill, and marks the page with what they lack. -/
theorem ModelSpec.tryApply_of_target {m : ModelSpec} {x : Extractor Record}
    (h : m.compile = .ok x) {page : Page} (htarget : x.target.isMatch page.url = true) :
  ∃ record,
    x.tryApply page = (.ok (some record), page.markedBy x.rules) ∧
    ∀ name,
      (m.rules.reverse.lookup name = none → record.get? name = none) ∧
      ∀ spec, m.rules.reverse.lookup name = some spec →
        ∃ value, spec.Selects page value ∧ record.get? name = some value.toJson
  := by
  obtain ⟨-, hfactory, hafter, hrules⟩ := ModelSpec.parts_of_compile h
  obtain ⟨record, hperform, hfields⟩ := exists_record hrules page .empty
  use record
  constructor
  · have heffects : x.effects page = x.rules.flatMap (FieldRule.effects · page) := by
      rw [Extractor.effects, Extractor.hookEffects, hafter, Option.toList_none, List.map_nil,
        List.append_nil]
    obtain ⟨hresult, -⟩ := Extractor.run_eq_perform htarget hfactory
    rw [heffects, hperform] at hresult
    rw [Extractor.tryApply, hresult, Extractor.page_run hresult]
    rfl
  · exact hfields

/-- A model that can be compiled leaves a page alone whose URL is no target. Of another page it makes
a record, whatever the page is. The fields of the record are those that have a rule, and each holds
what the last rule of its name selects: one text or null, or the list of all texts. The page is then
marked if it was before or one of the required rules, whether or not a later one has its name,
selects nothing. -/
theorem ModelSpec.tryApply_compile {m : ModelSpec} {x : Extractor Record} (h : m.compile = .ok x)
    (page : Page) :
  ∃ target, UrlRuleSet.target m.targetUrl = .ok target ∧
    (target.isMatch page.url = false → x.tryApply page = (.ok none, page)) ∧
    (target.isMatch page.url = true →
      ∃ record page', x.tryApply page = (.ok (some record), page') ∧
        (∀ name, name ∈ record.fields ↔ ∃ spec, (name, spec) ∈ m.rules) ∧
        (∀ name spec, m.rules.reverse.lookup name = some spec →
          ∃ value, spec.Selects page value ∧ record.get? name = some value.toJson) ∧
        page'.url = page.url ∧ page'.html = page.html ∧
        (page'.skip = true ↔ page.skip = true ∨
          ∃ p ∈ m.rules, p.2.required = true ∧
            ∃ value, p.2.Selects page value ∧ value.isMissing = true))
  := by
  obtain ⟨htarget, -, -, hrules⟩ := ModelSpec.parts_of_compile h
  refine ⟨x.target, htarget, ?_, ?_⟩
  · intro hmatch
    simp [Extractor.tryApply, Extractor.run, hmatch]
  · intro hmatch
    obtain ⟨record, happly, hfields⟩ := ModelSpec.tryApply_of_target h hmatch
    use record, page.markedBy x.rules, happly
    refine ⟨?_, fun name => (hfields name).2, rfl, rfl, ?_⟩
    · intro name
      obtain ⟨hnone, hsome⟩ := hfields name
      have hisSome : (record.get? name).isSome = (m.rules.reverse.lookup name).isSome := by
        cases hlookup : m.rules.reverse.lookup name with
        | none =>
            rw [hnone hlookup]
            rfl
        | some spec =>
            obtain ⟨value, -, hvalue⟩ := hsome spec hlookup
            rw [hvalue, Option.isSome_some, Option.isSome_some]
      rw [Record.mem_fields_iff, hisSome, List.lookup_isSome_iff]
      constructor
      · rintro ⟨⟨name', spec⟩, hmem, hname⟩
        obtain rfl := eq_of_beq hname
        exact ⟨spec, List.mem_reverse.1 hmem⟩
      · rintro ⟨spec, hmem⟩
        exact ⟨(name, spec), List.mem_reverse.2 hmem, beq_self_eq_true name⟩
    · rw [Page.markedBy, Page.skippedIf_skip, Bool.or_eq_true, lacks_iff hrules]

/-- A model with a field that is declared twice, first by a required rule. -/
def twiceDeclared : ModelSpec where
  name := "question"
  targetUrl := some ⟨["http://site/q/*"], none⟩
  helpUrl := none
  fields :=
    [⟨"id", "string", some ⟨"//h1/text()", .xpath, true, false⟩, none⟩,
      ⟨"id", " Text", none, some ⟨"q/(.+)", false, false⟩⟩,
      ⟨"votes", "integer", none, none⟩,
      ⟨"links", "array", some ⟨"//a/@href", .xpath2, false, true⟩, none⟩]

/-- The required rule counts although the field holds what the other one selects. -/
theorem twiceDeclared_tryApply :
  ∃ x record page', twiceDeclared.compile = .ok x ∧
    x.tryApply ⟨"http://site/q/7", "<p>no heading</p>", false⟩ = (.ok (some record), page') ∧
    (∀ name, name ∈ record.fields ↔ ∃ spec, (name, spec) ∈ twiceDeclared.rules) ∧
    record.get? "id" = some (.string "7") ∧ page'.skip = true
  := by
  have hcompile : twiceDeclared.compile.isOk = true := by decide +kernel
  have hmatch : (UrlRuleSet.target twiceDeclared.targetUrl).map (·.isMatch "http://site/q/7")
      = .ok true := by decide +kernel
  have hid : (Selector.ofPattern (AddressRule.pattern ⟨"q/(.+)", false, false⟩)).map
      (·.select "http://site/q/7") = .ok (some "7") := by decide +kernel
  have hheading : (Selector.build .xpath "//h1/text()").map (·.select "<p>no heading</p>")
      = .ok none := by decide +kernel
  cases h : twiceDeclared.compile with
  | error e =>
      rw [h] at hcompile
      cases hcompile
  | ok x =>
      obtain ⟨target, htarget, -, happly⟩ :=
        ModelSpec.tryApply_compile h ⟨"http://site/q/7", "<p>no heading</p>", false⟩
      rw [htarget] at hmatch
      obtain ⟨record, page', hresult, hnames, hvalues, -, -, hskip⟩ :=
        happly (Except.ok.inj hmatch)
      use x, record, page', rfl, hresult, hnames
      constructor
      · obtain ⟨value, ⟨s, hs, rfl⟩, hvalue⟩ := hvalues "id" _ rfl
        rw [hs] at hid
        have hselect : s.select "http://site/q/7" = some "7" := Except.ok.inj hid
        rw [hvalue, Selector.fieldValue, if_neg Bool.false_ne_true, hselect]
        rfl
      · apply hskip.2
        right
        obtain ⟨s, hs, hselect⟩ := exists_of_map_eq_ok hheading
        use ("id", .body ⟨"//h1/text()", .xpath, true, false⟩), List.mem_cons_self, rfl
        use .text none
        constructor
        · use s, hs
          rw [Selector.fieldValue, if_neg Bool.false_ne_true, hselect]
        · rfl

end PageModel
