import PageModel.Model.Text
import PageModel.Proofs.Json.Records

/-!
# Models are read back

What is written for a model is read as the model (`ModelSpec.ofText_toText`). Each of the records
that a model is made of is read back (`ReadsBack`), whichever of its members are left out: a member
that is left out has no value, and that is what is filled in for it.
-/

namespace PageModel

open Json

/-! ### Members -/

section

variable {σ α : Type} {name : String} {put : σ → α → σ} {r : Reader α} {s t : σ} {v : Value} {a : α}

theorem read_requiredMember {get : σ → Option α}
    (hr : ∀ rest, r (v.chars ++ rest) = .ok (a, rest)) (rest : List Char) :
  (requiredMember name get put r).read s (v.chars ++ rest) = .ok (put s a, rest)
  := by
  simp only [requiredMember, hr, Except.map]

theorem read_defaultMember {get : σ → Option α} {value : α}
    (hr : ∀ rest, r (v.chars ++ rest) = .ok (a, rest)) (rest : List Char) :
  (defaultMember name get put value r).read s (v.chars ++ rest) = .ok (put s a, rest)
  := by
  simp only [defaultMember, hr, Except.map]

/-- A member that is left out where there is no value leads nowhere then. -/
theorem fills_optionalMember {members : List (Member σ)} {get : σ → Option (Option α)}
    {put : σ → Option α → σ} {value : Option α} {f : α → Value} {o : Option α}
    (hfind : (members.find? fun m => m.name == name) =
      some (defaultMember name get put value (readOptional r)))
    (hget : get s = none) (hr : ReadsBack r f) (hf : Opens f)
    (ht : o.elim s (fun a => put s (some a)) = t) :
  Fills (putRecordMember members) (optionalMember name f o) s t
  := by
  subst ht
  cases o with
  | none => exact .nil s
  | some a =>
      apply Fills.member hfind
      · exact congrArg Option.isSome hget
      · exact read_defaultMember (readOptional_chars hr hf a)

end

/-! ### Rules -/

theorem readsBack_urlRule :
  ReadsBack readUrlRule UrlRule.toValue
  := by
  rintro ⟨patterns, region⟩ rest
  have hpatterns : Fills (putRecordMember urlRuleMembers)
      [("value", .array (patterns.map .string))] {} { patterns := some patterns } :=
    .member rfl rfl (read_requiredMember (readsBack_sequence readsBack_string opens_string patterns))
  have hregion : Fills (putRecordMember urlRuleMembers)
      (optionalMember "source_region" .string region) { patterns := some patterns }
      { patterns := some patterns, sourceRegion := region.map some } :=
    fills_optionalMember rfl rfl readsBack_string opens_string (by cases region <;> rfl)
  have hfill : fillMembers urlRuleMembers
      { patterns := some patterns, sourceRegion := region.map some } =
      .ok { patterns := some patterns, sourceRegion := some region } := by
    cases region with
    | none => rfl
    | some path => rfl
  rw [readUrlRule, UrlRule.toValue, readRecord_of_fills (hpatterns.append hregion) hfill]
  rfl

/-- The name of a query language is read as the language. -/
theorem readsBack_kind :
  ReadsBack readKind fun k => .string k.name
  := by
  intro k rest
  have hname : SelectorKind.ofNameLenient k.name = k := by
    cases k <;> decide
  rw [readKind, readsBack_string]
  simp only [Except.map, hname]

theorem readsBack_bodyRule :
  ReadsBack readBodyRule BodyRule.toValue
  := by
  rintro ⟨value, kind, required, multi⟩ rest
  have hvalue : Fills (putRecordMember bodyRuleMembers) [("value", .string value)] {}
      { value := some value } :=
    .member rfl rfl (read_requiredMember (readsBack_string value))
  have hkind : Fills (putRecordMember bodyRuleMembers) [("type", .string kind.name)]
      { value := some value } { value := some value, kind := some kind } :=
    .member rfl rfl (read_defaultMember (readsBack_kind kind))
  have hrequired : Fills (putRecordMember bodyRuleMembers) [("required", .boolean required)]
      { value := some value, kind := some kind }
      { value := some value, kind := some kind, required := some required } :=
    .member rfl rfl (read_defaultMember (readsBack_boolean required))
  have hmulti : Fills (putRecordMember bodyRuleMembers) [("multi", .boolean multi)]
      { value := some value, kind := some kind, required := some required }
      ⟨some value, some kind, some required, some multi⟩ :=
    .member rfl rfl (read_defaultMember (readsBack_boolean multi))
  have hfills := hvalue.append (hkind.append (hrequired.append hmulti))
  have hfill : fillMembers bodyRuleMembers ⟨some value, some kind, some required, some multi⟩ =
      .ok ⟨some value, some kind, some required, some multi⟩ := rfl
  rw [readBodyRule, BodyRule.toValue]
  exact congrArg (Except.map _) (readRecord_of_fills hfills hfill "ExtractBy" rest)

theorem readsBack_addressRule :
  ReadsBack readAddressRule AddressRule.toValue
  := by
  rintro ⟨value, required, multi⟩ rest
  have hvalue : Fills (putRecordMember addressRuleMembers) [("value", .string value)] {}
      { value := some value } :=
    .member rfl rfl (read_defaultMember (readsBack_string value))
  have hrequired : Fills (putRecordMember addressRuleMembers) [("required", .boolean required)]
      { value := some value } { value := some value, required := some required } :=
    .member rfl rfl (read_defaultMember (readsBack_boolean required))
  have hmulti : Fills (putRecordMember addressRuleMembers) [("multi", .boolean multi)]
      { value := some value, required := some required } ⟨some value, some required, some multi⟩ :=
    .member rfl rfl (read_defaultMember (readsBack_boolean multi))
  have hfills := hvalue.append (hrequired.append hmulti)
  have hfill : fillMembers addressRuleMembers ⟨some value, some required, some multi⟩ =
      .ok ⟨some value, some required, some multi⟩ := rfl
  rw [readAddressRule, AddressRule.toValue]
  exact congrArg (Except.map _) (readRecord_of_fills hfills hfill "ExtractByUrl" rest)

/-! ### Fields and models -/

theorem readsBack_field :
  ReadsBack readField FieldSpec.toValue
  := by
  rintro ⟨name, fieldType, extractBy, extractByUrl⟩ rest
  have hname : Fills (putRecordMember fieldMembers) [("name", .string name)] {}
      { name := some name } :=
    .member rfl rfl (read_requiredMember (readsBack_string name))
  have htype : Fills (putRecordMember fieldMembers) [("type", .string fieldType)]
      { name := some name } { name := some name, fieldType := some fieldType } :=
    .member rfl rfl (read_defaultMember (readsBack_string fieldType))
  have hbody : Fills (putRecordMember fieldMembers)
      (optionalMember "extract_by" BodyRule.toValue extractBy)
      { name := some name, fieldType := some fieldType }
      { name := some name, fieldType := some fieldType, extractBy := extractBy.map some } :=
    fills_optionalMember rfl rfl readsBack_bodyRule (opens_object fun _ => rfl)
      (by cases extractBy <;> rfl)
  have haddress : Fills (putRecordMember fieldMembers)
      (optionalMember "extract_by_url" AddressRule.toValue extractByUrl)
      { name := some name, fieldType := some fieldType, extractBy := extractBy.map some }
      ⟨some name, some fieldType, extractBy.map some, extractByUrl.map some⟩ :=
    fills_optionalMember rfl rfl readsBack_addressRule (opens_object fun _ => rfl)
      (by cases extractByUrl <;> rfl)
  have hfills := ((hname.append htype).append hbody).append haddress
  have hfill : fillMembers fieldMembers
      ⟨some name, some fieldType, extractBy.map some, extractByUrl.map some⟩ =
      .ok ⟨some name, some fieldType, some extractBy, some extractByUrl⟩ := by
    cases extractBy <;> cases extractByUrl <;> rfl
  rw [readField, FieldSpec.toValue]
  exact congrArg (Except.map _) (readRecord_of_fills hfills hfill "FieldSpec" rest)

theorem readsBack_model :
  ReadsBack readModel ModelSpec.toValue
  := by
  rintro ⟨name, targetUrl, helpUrl, fields⟩ rest
  have hname : Fills (putRecordMember modelMembers) [("name", .string name)] {}
      { name := some name } :=
    .member rfl rfl (read_requiredMember (readsBack_string name))
  have htarget : Fills (putRecordMember modelMembers)
      (optionalMember "target_url" UrlRule.toValue targetUrl) { name := some name }
      { name := some name, targetUrl := targetUrl.map some } :=
    fills_optionalMember rfl rfl readsBack_urlRule (opens_object fun _ => rfl)
      (by cases targetUrl <;> rfl)
  have hhelp : Fills (putRecordMember modelMembers)
      (optionalMember "help_url" UrlRule.toValue helpUrl)
      { name := some name, targetUrl := targetUrl.map some }
      { name := some name, targetUrl := targetUrl.map some, helpUrl := helpUrl.map some } :=
    fills_optionalMember rfl rfl readsBack_urlRule (opens_object fun _ => rfl)
      (by cases helpUrl <;> rfl)
  have hlist : Fills (putRecordMember modelMembers)
      [("fields", .array (fields.map FieldSpec.toValue))]
      { name := some name, targetUrl := targetUrl.map some, helpUrl := helpUrl.map some }
      ⟨some name, targetUrl.map some, helpUrl.map some, some fields⟩ :=
    .member rfl rfl (read_defaultMember
      (readsBack_sequence readsBack_field (opens_object fun _ => rfl) fields))
  have hfills := ((hname.append htarget).append hhelp).append hlist
  have hfill : fillMembers modelMembers
      ⟨some name, targetUrl.map some, helpUrl.map some, some fields⟩ =
      .ok ⟨some name, some targetUrl, some helpUrl, some fields⟩ := by
    cases targetUrl <;> cases helpUrl <;> rfl
  rw [readModel, ModelSpec.toValue]
  exact congrArg (Except.map _) (readRecord_of_fills hfills hfill "ModelSpec" rest)

/-! ### Texts -/

theorem ModelSpec.ofText_toText (m : ModelSpec) :
  ModelSpec.ofText m.toText = .ok m
  := by
  have hread : readModel m.toText.toList = .ok (m, []) := by
    have hchars := readsBack_model m []
    rw [List.append_nil] at hchars
    rw [ModelSpec.toText, Value.text, String.toList_ofList]
    exact hchars
  rw [ModelSpec.ofText, ModelSpec.parse, readText, hread]
  rfl

/-- Models survive being written and read again, those that were made and those that were read from
texts that leave out members, hold null or unknown members, or name unknown query languages. -/
theorem ModelSpec.survives_roundTrip :
  (∀ m : ModelSpec, ModelSpec.ofText m.toText = .ok m) ∧
    ∀ text m, ModelSpec.ofText text = .ok m → ModelSpec.ofText m.toText = .ok m
  := by
  constructor
  · exact ModelSpec.ofText_toText
  · intro _ m _
    exact m.ofText_toText

/-- A text of a model that is not the one that is written for the model. -/
def lenientText : String :=
  "\x7b \"name\": \"m\", \"note\": [1], \"target_url\": null, \"fields\": [\x7b\"name\": \"\\u0041\","
    ++ " \"extract_by\": \x7b\"value\": \"//p\", \"type\": \"T\"\x7d\x7d]\x7d"

theorem ModelSpec.survives_roundTrip_lenientText :
  ∃ m, ModelSpec.ofText lenientText = .ok m ∧ ModelSpec.ofText m.toText = .ok m ∧
    m.toText ≠ lenientText
  := by
  have hread : ModelSpec.ofText lenientText = .ok
      ⟨"m", none, none, [⟨"A", "string", some ⟨"//p", .xpath2, false, false⟩, none⟩]⟩ := by
    decide +kernel
  refine ⟨_, hread, ModelSpec.survives_roundTrip.2 lenientText _ hread, ?_⟩
  decide +kernel

end PageModel
