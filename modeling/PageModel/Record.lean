import PageModel.Json.Print
import PageModel.Json.Read

/-!
# Records

A record whose fields are known by name only: a JSON object that is written to field by field. Its
fields are kept in the order of their names.
-/

namespace PageModel

/-- A record: the values of its fields, in the order of the names. -/
structure Record where
  values : List (String × Json.Value)
  ordered : Json.Ordered values
deriving Repr

namespace Record

/-- The record without fields. -/
def empty : Record :=
  ⟨[], List.Pairwise.nil⟩

/-- A record with a field set to a value. -/
def set (r : Record) (field : String) (value : Json.Value) : Record :=
  ⟨Json.putMember field value r.values, Json.ordered_putMember field value r.ordered⟩

/-- A record with a field set to a text, or to null. -/
def setText (r : Record) (field : String) (value : Option String) : Record :=
  r.set field (match value with | some s => .string s | none => .null)

/-- A record with a field set to a list of texts. -/
def setList (r : Record) (field : String) (values : List String) : Record :=
  r.set field (.array (values.map .string))

/-- The value of a field. -/
def get? (r : Record) (field : String) : Option Json.Value :=
  Json.member? field r.values

/-- The text of a value, if it is a text. -/
def textOf? : Json.Value → Option String
  | .string s => some s
  | _ => none

/-- The text that a field holds. -/
def text? (r : Record) (field : String) : Option String :=
  (r.get? field).bind textOf?

/-- The texts in the list that a field holds. -/
def list (r : Record) (field : String) : List String :=
  match r.get? field with
  | some (.array items) => items.filterMap textOf?
  | _ => []

/-- The names of the fields. -/
def fields (r : Record) : List String :=
  r.values.map (·.1)

/-! ### Fields of a record -/

@[simp] theorem get?_empty (field : String) :
  empty.get? field = none
  := rfl

/-- Setting a field changes that field alone. -/
theorem get?_set (r : Record) (field : String) (value : Json.Value) (other : String) :
  (r.set field value).get? other = if other = field then some value else r.get? other
  := Json.member?_putMember field value r.values other

theorem mem_fields_iff (r : Record) (field : String) :
  field ∈ r.fields ↔ (r.get? field).isSome = true
  := (Json.isSome_member?_iff field r.values).symm

/-! ### Texts of records -/

/-- A record as a JSON value. -/
def toValue (r : Record) : Json.Value :=
  .object r.values

/-- The text of a record. -/
def toText (r : Record) : String :=
  r.toValue.text

/-- Whether two records are equal. -/
def same (r s : Record) : Bool :=
  r.toValue.same s.toValue

/-- The record of a list of members; of several with one name the last counts. -/
def ofMembers (members : List (String × Json.Value)) : Record :=
  members.foldl (fun r m => r.set m.1 m.2) empty

/-- The record that a text denotes, if it denotes an object. -/
def ofText? (text : String) : Option Record :=
  match Json.readText (Json.readValue Json.maxDepth) text with
  | .ok (.object members) => some (ofMembers members)
  | _ => none

end Record

end PageModel
