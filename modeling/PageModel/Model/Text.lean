import PageModel.Model.Spec

/-!
# The text of models

Models are JSON texts. A rule of a field may leave out what has a default, and a model the rules for
URLs and the fields. What was read can be written, and what is written can be read again.
-/

namespace PageModel

open Json

/-! ### Members -/

/-- A member that must be there. -/
def requiredMember {σ α : Type} (name : String) (get : σ → Option α) (put : σ → α → σ)
    (r : Reader α) : Member σ where
  name := name
  isSet s := (get s).isSome
  read s cs := (r cs).map fun (a, rest) => (put s a, rest)
  fallback := none

/-- A member that has a value where it is missing. -/
def defaultMember {σ α : Type} (name : String) (get : σ → Option α) (put : σ → α → σ)
    (value : α) (r : Reader α) : Member σ where
  name := name
  isSet s := (get s).isSome
  read s cs := (r cs).map fun (a, rest) => (put s a, rest)
  fallback := some fun s => put s value

/-! ### Rules for URLs -/

/-- What has been read of a rule for URLs. -/
structure UrlRuleParts where
  patterns : Option (List String) := none
  sourceRegion : Option (Option String) := none

/-- The members of a rule for URLs. -/
def urlRuleMembers : List (Member UrlRuleParts) :=
  [requiredMember "value" (·.patterns) (fun s a => { s with patterns := some a })
      (readSequence readString),
    defaultMember "source_region" (·.sourceRegion) (fun s a => { s with sourceRegion := some a })
      none (readOptional readString)]

/-- The rule that has been read. -/
def UrlRuleParts.rule (s : UrlRuleParts) : UrlRule :=
  ⟨s.patterns.getD [], s.sourceRegion.getD none⟩

/-- The reader of rules for URLs. -/
def readUrlRule : Reader UrlRule := fun cs =>
  (readRecord "UrlRule" urlRuleMembers {} cs).map fun (s, rest) => (s.rule, rest)

/-! ### Rules of fields -/

/-- What has been read of a rule about the text of pages. -/
structure BodyRuleParts where
  value : Option String := none
  kind : Option SelectorKind := none
  required : Option Bool := none
  multi : Option Bool := none

/-- The reader of names of query languages, which every text is. -/
def readKind : Reader SelectorKind := fun cs =>
  (readString cs).map fun (s, rest) => (.ofNameLenient s, rest)

/-- The members of a rule about the text of pages. -/
def bodyRuleMembers : List (Member BodyRuleParts) :=
  [requiredMember "value" (·.value) (fun s a => { s with value := some a }) readString,
    defaultMember "type" (·.kind) (fun s a => { s with kind := some a }) .xpath readKind,
    defaultMember "required" (·.required) (fun s a => { s with required := some a }) false
      readBoolean,
    defaultMember "multi" (·.multi) (fun s a => { s with multi := some a }) false readBoolean]

/-- The rule that has been read. -/
def BodyRuleParts.rule (s : BodyRuleParts) : BodyRule :=
  ⟨s.value.getD "", s.kind.getD .xpath, s.required.getD false, s.multi.getD false⟩

/-- The reader of rules about the text of pages. -/
def readBodyRule : Reader BodyRule := fun cs =>
  (readRecord "ExtractBy" bodyRuleMembers {} cs).map fun (s, rest) => (s.rule, rest)

/-- What has been read of a rule about the URLs of pages. -/
structure AddressRuleParts where
  value : Option String := none
  required : Option Bool := none
  multi : Option Bool := none

/-- The members of a rule about the URLs of pages. -/
def addressRuleMembers : List (Member AddressRuleParts) :=
  [defaultMember "value" (·.value) (fun s a => { s with value := some a }) "" readString,
    defaultMember "required" (·.required) (fun s a => { s with required := some a }) false
      readBoolean,
    defaultMember "multi" (·.multi) (fun s a => { s with multi := some a }) false readBoolean]

/-- The rule that has been read. -/
def AddressRuleParts.rule (s : AddressRuleParts) : AddressRule :=
  ⟨s.value.getD "", s.required.getD false, s.multi.getD false⟩

/-- The reader of rules about the URLs of pages. -/
def readAddressRule : Reader AddressRule := fun cs =>
  (readRecord "ExtractByUrl" addressRuleMembers {} cs).map fun (s, rest) => (s.rule, rest)

/-! ### Fields -/

/-- What has been read of a field. -/
structure FieldParts where
  name : Option String := none
  fieldType : Option String := none
  extractBy : Option (Option BodyRule) := none
  extractByUrl : Option (Option AddressRule) := none

/-- The members of a field. -/
def fieldMembers : List (Member FieldParts) :=
  [requiredMember "name" (·.name) (fun s a => { s with name := some a }) readString,
    defaultMember "type" (·.fieldType) (fun s a => { s with fieldType := some a }) "string"
      readString,
    defaultMember "extract_by" (·.extractBy) (fun s a => { s with extractBy := some a }) none
      (readOptional readBodyRule),
    defaultMember "extract_by_url" (·.extractByUrl)
      (fun s a => { s with extractByUrl := some a }) none (readOptional readAddressRule)]

/-- The field that has been read. -/
def FieldParts.field (s : FieldParts) : FieldSpec :=
  ⟨s.name.getD "", s.fieldType.getD "string", s.extractBy.getD none, s.extractByUrl.getD none⟩

/-- The reader of fields. -/
def readField : Reader FieldSpec := fun cs =>
  (readRecord "FieldSpec" fieldMembers {} cs).map fun (s, rest) => (s.field, rest)

/-! ### Models -/

/-- What has been read of a model. -/
structure ModelParts where
  name : Option String := none
  targetUrl : Option (Option UrlRule) := none
  helpUrl : Option (Option UrlRule) := none
  fields : Option (List FieldSpec) := none

/-- The members of a model. -/
def modelMembers : List (Member ModelParts) :=
  [requiredMember "name" (·.name) (fun s a => { s with name := some a }) readString,
    defaultMember "target_url" (·.targetUrl) (fun s a => { s with targetUrl := some a }) none
      (readOptional readUrlRule),
    defaultMember "help_url" (·.helpUrl) (fun s a => { s with helpUrl := some a }) none
      (readOptional readUrlRule),
    defaultMember "fields" (·.fields) (fun s a => { s with fields := some a }) []
      (readSequence readField)]

/-- The model that has been read. -/
def ModelParts.model (s : ModelParts) : ModelSpec :=
  ⟨s.name.getD "", s.targetUrl.getD none, s.helpUrl.getD none, s.fields.getD []⟩

/-- The reader of models. -/
def readModel : Reader ModelSpec := fun cs =>
  (readRecord "ModelSpec" modelMembers {} cs).map fun (s, rest) => (s.model, rest)

/-- The model that a text denotes, or the fault of the text. -/
def ModelSpec.parse (text : String) : Except Fault ModelSpec :=
  readText readModel text

/-- The model that a text denotes. -/
def ModelSpec.ofText (text : String) : Except Error ModelSpec :=
  match ModelSpec.parse text with
  | .ok m => .ok m
  | .error fault => .error (.schema (.invalidModel fault))

/-! ### Writing -/

/-- A member that is left out where there is no value. -/
def optionalMember {α : Type} (name : String) (f : α → Value) : Option α → List (String × Value)
  | none => []
  | some a => [(name, f a)]

/-- A rule for URLs as a JSON value. -/
def UrlRule.toValue (r : UrlRule) : Value :=
  .object ([("value", .array (r.patterns.map .string))]
    ++ optionalMember "source_region" .string r.sourceRegion)

/-- A rule about the text of pages as a JSON value. -/
def BodyRule.toValue (r : BodyRule) : Value :=
  .object [("value", .string r.value), ("type", .string r.kind.name),
    ("required", .boolean r.required), ("multi", .boolean r.multi)]

/-- A rule about the URLs of pages as a JSON value. -/
def AddressRule.toValue (r : AddressRule) : Value :=
  .object [("value", .string r.value), ("required", .boolean r.required),
    ("multi", .boolean r.multi)]

/-- A field as a JSON value. -/
def FieldSpec.toValue (f : FieldSpec) : Value :=
  .object ([("name", .string f.name), ("type", .string f.fieldType)]
    ++ optionalMember "extract_by" BodyRule.toValue f.extractBy
    ++ optionalMember "extract_by_url" AddressRule.toValue f.extractByUrl)

/-- A model as a JSON value. -/
def ModelSpec.toValue (m : ModelSpec) : Value :=
  .object ([("name", .string m.name)]
    ++ optionalMember "target_url" UrlRule.toValue m.targetUrl
    ++ optionalMember "help_url" UrlRule.toValue m.helpUrl
    ++ [("fields", .array (m.fields.map FieldSpec.toValue))])

/-- The text of a model. -/
def ModelSpec.toText (m : ModelSpec) : String :=
  m.toValue.text

end PageModel
