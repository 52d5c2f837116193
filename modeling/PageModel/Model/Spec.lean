import PageModel.Extractor
import PageModel.Record

/-!
# Models

A model is a schema as it is declared in a file: for each field its name, the name of its type and
its rules. Its records are known by the names of their fields only.
-/

namespace PageModel

/-- A field as it is declared. -/
structure FieldSpec where
  name : String
  fieldType : String
  extractBy : Option BodyRule
  extractByUrl : Option AddressRule
deriving Repr, DecidableEq

/-- A model as it is declared. -/
structure ModelSpec where
  name : String
  targetUrl : Option UrlRule
  helpUrl : Option UrlRule
  fields : List FieldSpec
deriving Repr, DecidableEq

/-- The field of a record that a name and the name of a type declare. -/
def recordField (name fieldType : String) : Field Record :=
  let typeName := Unicode.lowercaseText (Unicode.trimText fieldType)
  if typeName = "string" ∨ typeName = "text" then .text name fun r v => r.setText name v
  else if typeName = "list" ∨ typeName = "array" then .list name fun r vs => r.setList name vs
  else .other name typeName

/-- The field of a schema that a declared field stands for. A field has rules of one kind only. -/
def FieldSpec.toField (f : FieldSpec) : Except Error (Field Record) :=
  let field := recordField f.name f.fieldType
  match f.extractBy, f.extractByUrl with
  | some _, some _ => .error (.schema (.bothRules f.name))
  | some r, none => .ok (field.extractBy r)
  | none, some r => .ok (field.extractByUrl r)
  | none, none => .ok field

/-- The fields that declared fields stand for, or the error of the first that stands for none. -/
def toFields : List FieldSpec → Except Error (List (Field Record))
  | [] => .ok []
  | f :: fs =>
      match f.toField with
      | .error e => .error e
      | .ok field => (toFields fs).map (field :: ·)

/-- The schema that a model stands for. -/
def ModelSpec.toSchema (m : ModelSpec) : Except Error (Schema Record) :=
  (toFields m.fields).map fun fields =>
    { name := m.name, targetUrl := m.targetUrl, helpUrl := m.helpUrl, fields,
      factory := .ok .empty }

/-- The extractor of a model. -/
def ModelSpec.compile (m : ModelSpec) : Except Error (Extractor Record) :=
  match m.toSchema with
  | .error e => .error e
  | .ok schema => schema.compile

end PageModel
