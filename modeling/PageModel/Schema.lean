import PageModel.Error
import PageModel.Page
import PageModel.Selector.Kind
import PageModel.UrlRule

/-!
# Schemas

A schema says for one type of records which URLs are extracted, which are visited only, and how
each field of a record gets its value. A field takes one text or a list of texts; fields of other
types may be declared, but nothing can be extracted into them.
-/

namespace PageModel

/-! ### Rules of fields -/

/-- A rule that takes the value of a field from the text of a page. -/
structure BodyRule where
  value : String
  kind : SelectorKind
  required : Bool
  multi : Bool
deriving Repr, DecidableEq

/-- A rule that takes the value of a field from the URL of a page. -/
structure AddressRule where
  value : String
  required : Bool
  multi : Bool
deriving Repr, DecidableEq

/-- The pattern of a rule about URLs. A blank one stands for the whole URL. -/
def AddressRule.pattern (r : AddressRule) : String :=
  if Unicode.isBlankText r.value then ".*" else r.value

/-- A rule of a field. -/
inductive FieldRuleSpec where
  | body (r : BodyRule)
  | address (r : AddressRule)
deriving Repr, DecidableEq

/-- Where the value of a field comes from. -/
inductive Source where
  | body
  | url
deriving Repr, DecidableEq

/-- The name of a source. -/
def Source.name : Source → String
  | .body => "Body"
  | .url => "Url"

namespace FieldRuleSpec

/-- Where the value of a field comes from. -/
def source : FieldRuleSpec → Source
  | .body _ => .body
  | .address _ => .url

/-- Whether the field is to take a list of values. -/
def multi : FieldRuleSpec → Bool
  | .body r => r.multi
  | .address r => r.multi

/-- Whether a page without a value is to be dropped. -/
def required : FieldRuleSpec → Bool
  | .body r => r.required
  | .address r => r.required

/-- The query language of the rule. -/
def kind : FieldRuleSpec → SelectorKind
  | .body r => r.kind
  | .address _ => .regex

/-- The expression of the rule. -/
def expression : FieldRuleSpec → String
  | .body r => r.value
  | .address r => r.pattern

/-- The selector of the rule. -/
def build (r : FieldRuleSpec) : Except Error Selector :=
  match Selector.build r.kind r.expression with
  | .ok s => .ok s
  | .error fault => .error (.selector r.expression fault)

end FieldRuleSpec

/-! ### Fields -/

/-- How values get into a field: a writer, if there is one, sees the value first, and then the
value is assigned. -/
structure Writing (ρ α : Type) where
  assign : ρ → α → ρ
  writer : Option (ρ → α → Except Error ρ)

/-- What a field of a record takes. -/
inductive Slot (ρ : Type) where
  | text (w : Writing ρ (Option String))
  | list (w : Writing ρ (List String))
  | other (typeName : String)

/-- The name of what a field takes. -/
def Slot.typeName {ρ : Type} : Slot ρ → String
  | .text _ => "string"
  | .list _ => "list"
  | .other typeName => typeName

/-- A field: its name, what it takes, its rule, and whether rules of both kinds were declared. -/
structure Field (ρ : Type) where
  name : String
  slot : Slot ρ
  rule : Option FieldRuleSpec
  conflicting : Bool

namespace Field

variable {ρ : Type}

/-- A field without a rule. -/
def ofSlot (name : String) (slot : Slot ρ) : Field ρ :=
  ⟨name, slot, none, false⟩

/-- A field that takes one text. -/
def text (name : String) (assign : ρ → Option String → ρ) : Field ρ :=
  ofSlot name (.text ⟨assign, none⟩)

/-- A field that takes a list of texts. -/
def list (name : String) (assign : ρ → List String → ρ) : Field ρ :=
  ofSlot name (.list ⟨assign, none⟩)

/-- A field of another type. -/
def other (name typeName : String) : Field ρ :=
  ofSlot name (.other typeName)

/-- A field whose rule is replaced by one about the text of pages. -/
def extractBy (f : Field ρ) (r : BodyRule) : Field ρ :=
  { f with
    rule := some (.body r)
    conflicting := f.conflicting || f.rule.any fun old => old.source = .url }

/-- A field whose rule is replaced by one about the URLs of pages. -/
def extractByUrl (f : Field ρ) (r : AddressRule) : Field ρ :=
  { f with
    rule := some (.address r)
    conflicting := f.conflicting || f.rule.any fun old => old.source = .body }

/-- A field whose rule is replaced. -/
def withRule (f : Field ρ) : FieldRuleSpec → Field ρ
  | .body r => f.extractBy r
  | .address r => f.extractByUrl r

end Field

/-! ### Schemas -/

/-- A schema: its name, the rules for URLs, the fields in the order in which they are filled, how a
record starts, and what is done with it at the end. -/
structure Schema (ρ : Type) where
  name : String
  targetUrl : Option UrlRule := none
  helpUrl : Option UrlRule := none
  fields : List (Field ρ) := []
  factory : Except Error ρ
  afterExtract : Option (ρ → Page → Except Error ρ) := none

/-- A schema with one more field. -/
def Schema.field {ρ : Type} (s : Schema ρ) (f : Field ρ) : Schema ρ :=
  { s with fields := s.fields ++ [f] }

end PageModel
