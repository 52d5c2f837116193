import PageModel.Json.Number
import PageModel.Text.Quoted

/-!
# Faults of JSON texts

What can be wrong with a text that is read as a value of a given shape: it is not JSON, or what
stands in some place has another shape than is asked for there.
-/

namespace PageModel.Json

/-- What stands in a place. -/
inductive Found where
  | null
  | boolean (b : Bool)
  | number (n : Number)
  | string (s : String)
  | sequence
  | map
deriving Repr, DecidableEq

/-- What is asked for in a place. -/
inductive Expected where
  | boolean
  | string
  | sequence
  | map
  | record (name : String)
deriving Repr, DecidableEq

/-- A fault of a text. -/
inductive Fault where
  | malformed
  | invalidType (found : Found) (expected : Expected)
  | invalidLength (length : Nat) (record : String) (count : Nat)
  | missingField (name : String)
  | duplicateField (name : String)
deriving Repr, DecidableEq

/-- The wording of what stands in a place. -/
def Found.message : Found → String
  | .null => "null"
  | .boolean b => "boolean \x60" ++ (if b then "true" else "false") ++ "\x60"
  | .number (.integer n) => "integer \x60" ++ String.ofList (integerChars n) ++ "\x60"
  | .number (.decimal x) => "floating point \x60" ++ String.ofList (binary64Chars x) ++ "\x60"
  | .string s => "string " ++ Text.quoted s
  | .sequence => "sequence"
  | .map => "map"

/-- The wording of what is asked for in a place. -/
def Expected.message : Expected → String
  | .boolean => "a boolean"
  | .string => "a string"
  | .sequence => "a sequence"
  | .map => "a map"
  | .record name => "struct " ++ name

/-- The wording of a fault. -/
def Fault.message : Fault → String
  | .malformed => "malformed JSON"
  | .invalidType found expected =>
      "invalid type: " ++ found.message ++ ", expected " ++ expected.message
  | .invalidLength length record count =>
      "invalid length " ++ toString length ++ ", expected struct " ++ record ++ " with "
        ++ toString count ++ " elements"
  | .missingField name => "missing field \x60" ++ name ++ "\x60"
  | .duplicateField name => "duplicate field \x60" ++ name ++ "\x60"

end PageModel.Json
