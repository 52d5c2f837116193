import PageModel.Proofs.Model.Extraction

/-!
# Models and schemas that are built by calls

A model declares what can also be said by calls: a schema is started, and for every declared field one
is added, which was given its rules in some order (`ModelSpec.IsBuilt`). A declared field with rules of
both kinds stands for no field, whereas the calls make one that is refused when the schema is compiled.
Either way the field is a fault, and a field without it is compiled to the same rule
(`FieldSpec.IsBuilt.compile_eq`), so that model and schema are compiled to one extractor or to none.
-/

namespace PageModel

variable {m : ModelSpec} {f : FieldSpec} {field bare : Field Record} {s : Schema Record}
  {specs : List FieldSpec} {fields : List (Field Record)}

/-! ### Calls -/

/-- The name of the type of a declared field, in the form in which such names are compared. -/
def FieldSpec.typeName (f : FieldSpec) : String :=
  Unicode.lowercaseText (Unicode.trimText f.fieldType)

/-- The fields without a rule that a declared field may be started as. What a type is called that is
neither of texts nor of lists is left open. -/
inductive FieldSpec.IsBare (f : FieldSpec) : Field Record → Prop
  | text (h : f.typeName ∈ ["string", "text"]) :
      f.IsBare (.text f.name fun record value => record.setText f.name value)
  | list (h : f.typeName ∈ ["list", "array"]) :
      f.IsBare (.list f.name fun record values => record.setList f.name values)
  | other (h : f.typeName ∉ ["string", "text", "list", "array"]) (typeName : String) :
      f.IsBare (.other f.name typeName)

/-- The rules that a field declares. -/
def FieldSpec.declared (f : FieldSpec) : List FieldRuleSpec :=
  f.extractBy.toList.map .body ++ f.extractByUrl.toList.map .address

/-- The relation of a declared field with the fields that calls make of it: it is given the declared
rules one after the other, in either order. -/
def FieldSpec.IsBuilt (f : FieldSpec) (field : Field Record) : Prop :=
  ∃ bare, f.IsBare bare ∧
    (field = f.declared.foldl Field.withRule bare ∨
      field = f.declared.reverse.foldl Field.withRule bare)

/-- A schema of a model before fields are added to it. -/
def ModelSpec.bareSchema (m : ModelSpec) : Schema Record :=
  { name := m.name, targetUrl := m.targetUrl, helpUrl := m.helpUrl, factory := .ok .empty }

/-- The relation of a model with the schemas that calls make of it. -/
def ModelSpec.IsBuilt (m : ModelSpec) (s : Schema Record) : Prop :=
  ∃ fields, List.Forall₂ FieldSpec.IsBuilt m.fields fields ∧
    s = fields.foldl Schema.field m.bareSchema

/-! ### Fields without a rule -/

theorem FieldSpec.IsBare.name_eq (h : f.IsBare bare) :
  bare.name = f.name
  := by
  cases h <;> rfl

theorem FieldSpec.IsBare.rule_eq (h : f.IsBare bare) :
  bare.rule = none ∧ bare.conflicting = false
  := by
  cases h <;> exact ⟨rfl, rfl⟩

/-- A field is started as the one that its name and the name of its type declare, up to what a type is
called into which nothing can be extracted. -/
theorem FieldSpec.IsBare.eq_recordField_or (h : f.IsBare bare) :
  bare = recordField f.name f.fieldType ∨
    ∃ typeName typeName', bare = .other f.name typeName ∧
      recordField f.name f.fieldType = .other f.name typeName'
  := by
  unfold recordField
  simp only
  cases h with
  | text h =>
      left
      rw [FieldSpec.typeName, List.mem_cons, List.mem_singleton] at h
      rw [if_pos h]
  | list h =>
      left
      rw [FieldSpec.typeName, List.mem_cons, List.mem_singleton] at h
      rw [if_neg, if_pos h]
      rintro (htext | htext) <;> rw [htext] at h <;> revert h <;> decide
  | other h typeName =>
      right
      simp only [FieldSpec.typeName, List.mem_cons, List.not_mem_nil, or_false, not_or] at h
      obtain ⟨hstring, htext, hlist, harray⟩ := h
      rw [if_neg (not_or.2 ⟨hstring, htext⟩), if_neg (not_or.2 ⟨hlist, harray⟩)]
      exact ⟨typeName, _, rfl, rfl⟩

/-- A field of another type is refused whatever the type is called. -/
theorem compile_withRule_other (name typeName typeName' : String) (r : FieldRuleSpec) :
  ((Field.other name typeName : Field Record).withRule r).compile
    = ((Field.other name typeName').withRule r).compile
  := by
  have hkinds (typeName : String) :
      ((Field.other name typeName : Field Record).withRule r).conflicting = false := by
    cases r <;> rfl
  have hrule (typeName : String) :
      ((Field.other name typeName : Field Record).withRule r).rule = some r := by
    cases r <;> rfl
  have hsink (typeName : String) :
      ((Field.other name typeName : Field Record).withRule r).slot.sink? r.multi
        = .error (if r.multi then .list else .single) := by
    generalize r.multi = multi
    cases r <;> cases multi <;> rfl
  rw [Field.compile_eq (hkinds typeName) (hrule typeName),
    Field.compile_eq (hkinds typeName') (hrule typeName'), hsink, hsink]
  cases r <;> rfl

theorem FieldSpec.IsBare.compile_withRule (h : f.IsBare bare) (r : FieldRuleSpec) :
  (bare.withRule r).compile = ((recordField f.name f.fieldType).withRule r).compile
  := by
  rcases h.eq_recordField_or with hbare | ⟨typeName, typeName', hbare, hrecord⟩
  · rw [hbare]
  · rw [hbare, hrecord]
    exact compile_withRule_other f.name typeName typeName' r

/-! ### Fields -/

/-- A field that was given rules of both kinds, in either order, is refused. -/
theorem FieldSpec.IsBare.compile_both (h : f.IsBare bare) (r : BodyRule) (a : AddressRule) :
  ((bare.extractBy r).extractByUrl a).compile = .error (.schema (.bothRules f.name)) ∧
    ((bare.extractByUrl a).extractBy r).compile = .error (.schema (.bothRules f.name))
  := by
  obtain ⟨hrule, hkinds⟩ := h.rule_eq
  simp [Field.extractBy, Field.extractByUrl, Field.compile, h.name_eq, FieldRuleSpec.source]

theorem FieldSpec.IsBare.compile_eq (h : f.IsBare bare) :
  bare.compile = (recordField f.name f.fieldType).compile
  := by
  rcases h.eq_recordField_or with hbare | ⟨typeName, typeName', hbare, hrecord⟩
  · rw [hbare]
  · rw [hbare, hrecord]
    rfl

/-- What calls make of a declared field is compiled to what the field stands for, and is refused for
the same reason if it stands for none. -/
theorem FieldSpec.IsBuilt.compile_eq (h : f.IsBuilt field) :
  field.compile = f.toField.bind Field.compile
  := by
  obtain ⟨bare, hbare, hcalls⟩ := h
  have hboth := hbare.compile_both
  have hrule := hbare.compile_withRule
  have hnone := hbare.compile_eq
  unfold FieldSpec.declared at hcalls
  unfold FieldSpec.toField
  generalize recordField f.name f.fieldType = empty at hrule hnone ⊢
  cases hbody : f.extractBy with
  | some r =>
      cases haddress : f.extractByUrl with
      | some a =>
          rw [hbody, haddress] at hcalls
          rcases hcalls with rfl | rfl
          · exact (hboth r a).1
          · exact (hboth r a).2
      | none =>
          rw [hbody, haddress] at hcalls
          obtain rfl := or_self_iff.1 hcalls
          exact hrule (.body r)
  | none =>
      cases haddress : f.extractByUrl with
      | some a =>
          rw [hbody, haddress] at hcalls
          obtain rfl := or_self_iff.1 hcalls
          exact hrule (.address a)
      | none =>
          rw [hbody, haddress] at hcalls
          obtain rfl := or_self_iff.1 hcalls
          exact hnone

/-! ### Lists of fields -/

theorem toFields_append (fs gs : List FieldSpec) :
  toFields (fs ++ gs) = (toFields fs).bind fun fields => (toFields gs).map (fields ++ ·)
  := by
  induction fs with
  | nil => cases h : toFields gs <;> simp [toFields, Except.bind, Except.map, h]
  | cons f fs ih =>
      rw [List.cons_append, toFields_cons, toFields_cons, ih]
      cases f.toField with
      | error e => rfl
      | ok field =>
          cases toFields fs with
          | error e => rfl
          | ok fields => cases toFields gs <;> rfl

theorem compileFields_append (fs gs : List (Field Record)) :
  compileFields (fs ++ gs) = (compileFields fs).bind fun rules => (compileFields gs).map (rules ++ ·)
  := by
  induction fs with
  | nil => cases h : compileFields gs <;> simp [compileFields, Except.bind, Except.map, h]
  | cons f fs ih =>
      rw [List.cons_append, compileFields_cons, compileFields_cons, ih]
      cases f.compile with
      | error e => rfl
      | ok rule =>
          cases compileFields fs with
          | error e => rfl
          | ok rules =>
              cases compileFields gs with
              | error e => rfl
              | ok rules' => simp [Except.bind, Except.map]

/-- What calls make of declared fields is compiled to the rules of the fields that these stand for. -/
theorem compileFields_eq_ok_iff (h : List.Forall₂ FieldSpec.IsBuilt specs fields)
    (rules : List (FieldRule Record)) :
  compileFields fields = .ok rules ↔
    ∃ declared, toFields specs = .ok declared ∧ compileFields declared = .ok rules
  := by
  induction h generalizing rules with
  | nil =>
      constructor
      · intro hrules
        exact ⟨[], rfl, hrules⟩
      · rintro ⟨declared, hdeclared, hrules⟩
        rwa [← Except.ok.inj hdeclared] at hrules
  | @cons f field specs fields hfield hfields ih =>
      simp only [compileFields_cons, toFields_cons, hfield.compile_eq, bind_eq_ok_iff,
        map_eq_ok_iff, ih]
      constructor
      · rintro ⟨rule, ⟨first, hfirst, hrule⟩, rules, ⟨declared, hdeclared, hrules⟩, rfl⟩
        refine ⟨first :: declared, ⟨first, hfirst, declared, hdeclared, rfl⟩, ?_⟩
        rw [compileFields_cons, hrule, Except.bind, hrules]
        rfl
      · rintro ⟨_, ⟨first, hfirst, declared, hdeclared, rfl⟩, hrules⟩
        rw [compileFields_cons] at hrules
        obtain ⟨rule, hrule, hrules⟩ := exists_of_bind_eq_ok hrules
        obtain ⟨rules, hrest, rfl⟩ := exists_of_map_eq_ok hrules
        exact ⟨rule, ⟨first, hfirst, hrule⟩, rules, ⟨declared, hdeclared, hrest⟩, rfl⟩

/-- Where the fields before it have no fault, a field with rules of both kinds is the fault that is
reported. -/
theorem compileFields_of_bothRules {pre post : List FieldSpec} {declared : List (Field Record)}
    {rules : List (FieldRule Record)}
    (h : List.Forall₂ FieldSpec.IsBuilt (pre ++ f :: post) fields)
    (hboth : f.toField = .error (.schema (.bothRules f.name)))
    (hdeclared : toFields pre = .ok declared) (hrules : compileFields declared = .ok rules) :
  compileFields fields = .error (.schema (.bothRules f.name))
  := by
  induction pre generalizing fields declared rules with
  | nil =>
      cases h with
      | cons hfield hfields =>
          rw [compileFields_cons, hfield.compile_eq, hboth]
          rfl
  | cons g pre ih =>
      cases h with
      | cons hfield hfields =>
          rw [toFields_cons] at hdeclared
          obtain ⟨first, hfirst, hdeclared⟩ := exists_of_bind_eq_ok hdeclared
          obtain ⟨declared, hrest, rfl⟩ := exists_of_map_eq_ok hdeclared
          rw [compileFields_cons] at hrules
          obtain ⟨rule, hrule, hrules⟩ := exists_of_bind_eq_ok hrules
          obtain ⟨_, hafter, -⟩ := exists_of_map_eq_ok hrules
          rw [compileFields_cons, hfield.compile_eq, hfirst, Except.bind, hrule, Except.bind,
            ih hfields hrest hafter]
          rfl

/-! ### Schemas -/

theorem foldl_field_eq (fields : List (Field Record)) (s : Schema Record) :
  fields.foldl Schema.field s = { s with fields := s.fields ++ fields }
  := by
  induction fields generalizing s with
  | nil => simp
  | cons field fields ih =>
      rw [List.foldl_cons, ih]
      simp [Schema.field]

/-- A schema that calls make of a model is compiled as the fields that were added to it. -/
theorem ModelSpec.IsBuilt.compile_eq (h : m.IsBuilt s) :
  ∃ fields, List.Forall₂ FieldSpec.IsBuilt m.fields fields ∧
    s.compile = (UrlRuleSet.target m.targetUrl).bind fun target =>
      (UrlRuleSet.help m.helpUrl).bind fun help =>
        (compileFields fields).map fun rules => ⟨m.name, target, help, rules, .ok .empty, none⟩
  := by
  obtain ⟨fields, hfields, rfl⟩ := h
  refine ⟨fields, hfields, ?_⟩
  rw [foldl_field_eq, Schema.compile_eq]
  rfl

theorem ModelSpec.compile_eq (m : ModelSpec) :
  m.compile = (toFields m.fields).bind fun fields =>
    (UrlRuleSet.target m.targetUrl).bind fun target =>
      (UrlRuleSet.help m.helpUrl).bind fun help =>
        (compileFields fields).map fun rules => ⟨m.name, target, help, rules, .ok .empty, none⟩
  := by
  rw [ModelSpec.compile, ModelSpec.toSchema]
  cases toFields m.fields with
  | error e => rfl
  | ok fields => exact Schema.compile_eq _

/-- A model and a schema that calls make of it are compiled to one extractor. -/
theorem ModelSpec.IsBuilt.compile_eq_ok_iff (h : m.IsBuilt s) (x : Extractor Record) :
  m.compile = .ok x ↔ s.compile = .ok x
  := by
  obtain ⟨fields, hfields, hcompile⟩ := h.compile_eq
  rw [m.compile_eq, hcompile]
  simp only [bind_eq_ok_iff, map_eq_ok_iff, compileFields_eq_ok_iff hfields]
  constructor
  · rintro ⟨declared, hdeclared, target, htarget, help, hhelp, rules, hrules, hx⟩
    exact ⟨target, htarget, help, hhelp, rules, ⟨declared, hdeclared, hrules⟩, hx⟩
  · rintro ⟨target, htarget, help, hhelp, rules, ⟨declared, hdeclared, hrules⟩, hx⟩
    exact ⟨declared, hdeclared, target, htarget, help, hhelp, rules, hrules, hx⟩

/-- A field that declares rules of both kinds stands for none. -/
theorem FieldSpec.toField_of_both (hbody : f.extractBy.isSome = true)
    (haddress : f.extractByUrl.isSome = true) :
  f.toField = .error (.schema (.bothRules f.name))
  := by
  obtain ⟨r, hr⟩ := Option.isSome_iff_exists.1 hbody
  obtain ⟨a, ha⟩ := Option.isSome_iff_exists.1 haddress
  rw [FieldSpec.toField, hr, ha]

/-- A field with rules of both kinds is reported, by the model and by the schema alike, where it is
the only fault. -/
theorem ModelSpec.IsBuilt.compile_of_both (h : m.IsBuilt s) {pre post : List FieldSpec}
    (hm : m.fields = pre ++ f :: post) (hbody : f.extractBy.isSome = true)
    (haddress : f.extractByUrl.isSome = true) {x : Extractor Record}
    (hrest : ModelSpec.compile { m with fields := pre ++ post } = .ok x) :
  m.compile = .error (.schema (.bothRules f.name)) ∧
    s.compile = .error (.schema (.bothRules f.name))
  := by
  have hboth := FieldSpec.toField_of_both hbody haddress
  obtain ⟨fields, hfields, hcompile⟩ := h.compile_eq
  rw [ModelSpec.compile_eq, toFields_append] at hrest
  obtain ⟨declared, hdeclared, hrest⟩ := exists_of_bind_eq_ok hrest
  obtain ⟨first, hfirst, hdeclared⟩ := exists_of_bind_eq_ok hdeclared
  obtain ⟨second, -, rfl⟩ := exists_of_map_eq_ok hdeclared
  obtain ⟨target, htarget, hrest⟩ := exists_of_bind_eq_ok hrest
  obtain ⟨help, hhelp, hrest⟩ := exists_of_bind_eq_ok hrest
  obtain ⟨rules, hrules, -⟩ := exists_of_map_eq_ok hrest
  rw [compileFields_append] at hrules
  obtain ⟨rules, hrules, -⟩ := exists_of_bind_eq_ok hrules
  rw [hm] at hfields
  constructor
  · rw [m.compile_eq, hm, toFields_append, hfirst, Except.bind, toFields_cons, hboth]
    rfl
  · rw [hcompile, htarget, Except.bind, hhelp, Except.bind,
      compileFields_of_bothRules hfields hboth hfirst hrules]
    rfl

/-- A model and a schema that calls make of it are both compiled or both refused. The extractors that
they are compiled to have the same sets of URLs and the same rules, and come to the same on every
page. A field with rules of both kinds, if there is no other fault, is reported alike by both. -/
theorem ModelSpec.agrees_with_built {m : ModelSpec} {s : Schema Record} (h : m.IsBuilt s) :
  ((∃ x, m.compile = .ok x) ↔ ∃ x, s.compile = .ok x) ∧
    (∀ x y, m.compile = .ok x → s.compile = .ok y →
      x.target = y.target ∧ x.help = y.help ∧ x.rules = y.rules ∧
        ∀ page, x.tryApply page = y.tryApply page) ∧
    ∀ pre f post, m.fields = pre ++ f :: post → f.extractBy.isSome = true →
      f.extractByUrl.isSome = true →
      (∃ x, ModelSpec.compile { m with fields := pre ++ post } = .ok x) →
      m.compile = .error (.schema (.bothRules f.name)) ∧
        s.compile = .error (.schema (.bothRules f.name))
  := by
  refine ⟨exists_congr h.compile_eq_ok_iff, ?_, ?_⟩
  · intro x y hx hy
    obtain rfl := Except.ok.inj (((h.compile_eq_ok_iff x).1 hx).symm.trans hy)
    exact ⟨rfl, rfl, rfl, fun _ => rfl⟩
  · rintro pre f post hm hbody haddress ⟨x, hrest⟩
    exact h.compile_of_both hm hbody haddress hrest

/-- A model with a field that declares rules of both kinds. -/
def bothDeclared : ModelSpec where
  name := "question"
  targetUrl := some ⟨["http://site/q/*"], none⟩
  helpUrl := none
  fields :=
    [⟨"id", " Text", none, some ⟨"q/(.+)", true, false⟩⟩,
      ⟨"title", "string", some ⟨"//h1/text()", .xpath, true, false⟩, some ⟨"", false, false⟩⟩,
      ⟨"votes", "integer", none, none⟩]

/-- A schema that calls make of it, the rule about URLs first. -/
def bothCalled : Schema Record :=
  ((bothDeclared.bareSchema.field
      ((Field.text "id" fun r v => r.setText "id" v).extractByUrl ⟨"q/(.+)", true, false⟩)).field
    (((Field.text "title" fun r v => r.setText "title" v).extractByUrl ⟨"", false, false⟩).extractBy
      ⟨"//h1/text()", .xpath, true, false⟩)).field
    (.other "votes" "u64")

/-- Model and schema report the field. -/
theorem bothCalled_compile :
  bothDeclared.IsBuilt bothCalled ∧
    bothDeclared.compile = .error (.schema (.bothRules "title")) ∧
    bothCalled.compile = .error (.schema (.bothRules "title"))
  := by
  have hbuilt : bothDeclared.IsBuilt bothCalled := by
    refine ⟨bothCalled.fields, ?_, rfl⟩
    refine .cons ⟨_, .text (by decide +kernel), .inl rfl⟩ ?_
    refine .cons ⟨_, .text (by decide +kernel), .inr rfl⟩ ?_
    exact .cons ⟨_, .other (by decide +kernel) "u64", .inl rfl⟩ .nil
  have hrest : (ModelSpec.compile { bothDeclared with
      fields := bothDeclared.fields.take 1 ++ bothDeclared.fields.drop 2 }).isOk = true := by
    decide +kernel
  obtain ⟨-, -, hboth⟩ := ModelSpec.agrees_with_built hbuilt
  refine ⟨hbuilt, hboth (bothDeclared.fields.take 1) _ (bothDeclared.fields.drop 2) rfl rfl rfl ?_⟩
  cases h : ModelSpec.compile { bothDeclared with
      fields := bothDeclared.fields.take 1 ++ bothDeclared.fields.drop 2 } with
  | error e =>
      rw [h] at hrest
      cases hrest
  | ok x => exact ⟨x, rfl⟩

end PageModel
