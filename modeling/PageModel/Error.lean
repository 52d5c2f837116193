import PageModel.Files.Fault
import PageModel.Json.Fault
import PageModel.Selector.Fault

/-!
# Errors

What can go wrong when a page model is read, compiled, and applied to pages, with the wording in
which it is reported. The errors fall into those of a model, which keep it from being compiled, and
those of a page, which cost the page its record only. Code that a model brings along may fail with
any error; where only the wording is known, it is stated.
-/

namespace PageModel

/-- How many values a field takes. -/
inductive Cardinality where
  | single
  | list
deriving Repr, DecidableEq

/-- The name of a cardinality. -/
def Cardinality.name : Cardinality → String
  | .single => "string"
  | .list => "list"

/-- What is wrong with a model as a whole. -/
inductive SchemaFault where
  | bothRules (field : String)
  | invalidModel (fault : Json.Fault)
  | unreadableModelFile (path : String) (fault : Files.Fault)
  | invalidModelFile (path : String) (fault : Json.Fault)
  | modelNotFound (reference : String)
  | malformedReference (reference : String)
  | noLatestVersion (name : String)
  | modelFileNotFound (path : String)
  | unreadableRegistry (path : String) (fault : Files.Fault)
  | invalidRegistry (fault : Json.Fault)
  | stated (text : String)
deriving Repr, DecidableEq

/-- The wording of a fault of a model. -/
def SchemaFault.message : SchemaFault → String
  | .bothRules field => "Field " ++ field ++ " declares both extract_by and extract_by_url"
  | .invalidModel fault => "Invalid model: " ++ fault.message
  | .unreadableModelFile path fault =>
      "Failed to read model file " ++ path ++ ": " ++ fault.message
  | .invalidModelFile path fault => "Invalid JSON in model file " ++ path ++ ": " ++ fault.message
  | .modelNotFound reference => "Model not found: " ++ reference
  | .malformedReference reference =>
      "Model must be a file path or name@version, got: " ++ reference
  | .noLatestVersion name => "No latest version for model " ++ name
  | .modelFileNotFound path => "Model file not found: " ++ path
  | .unreadableRegistry path fault =>
      "Failed to read model registry " ++ path ++ ": " ++ fault.message
  | .invalidRegistry fault => "Invalid JSON in model registry: " ++ fault.message
  | .stated text => text

/-- What is wrong with the value of a setting. -/
inductive SettingFault where
  | notPositive (setting value : String)
  | zero (setting : String)
  | stated (text : String)
deriving Repr, DecidableEq

/-- The wording of a fault of a setting. -/
def SettingFault.message : SettingFault → String
  | .notPositive setting value =>
      "Invalid " ++ setting ++ " '" ++ value ++ "': must be a positive integer"
  | .zero setting => setting ++ " must be at least 1"
  | .stated text => text

/-- What is wrong with an address. -/
inductive AddressFault where
  | invalid
  | scheme (name : String)
  | stated (text : String)
deriving Repr, DecidableEq

/-- The wording of a fault of an address. -/
def AddressFault.message : AddressFault → String
  | .invalid => "Invalid URL: malformed address"
  | .scheme name => "URL scheme '" ++ name ++ "' is not allowed (only http/https)"
  | .stated text => text

/-- Why no record could be made for a page. -/
inductive RecordFault where
  | crashed (text : String)
  | stated (text : String)
deriving Repr, DecidableEq

/-- The wording of a fault of a record. -/
def RecordFault.message : RecordFault → String
  | .crashed text => "extraction task panicked: " ++ text
  | .stated text => text

/-- What can go wrong. -/
inductive Error where
  | schema (fault : SchemaFault)
  | cardinality (field : String) (expected : Cardinality)
  | selector (expression : String) (fault : SelectorFault)
  | record (fault : RecordFault)
  | fieldWrite (field message : String)
  | afterExtract (message : String)
  | http (fault : AddressFault)
  | network (message : String)
  | timeout (seconds : Nat)
  | config (fault : SettingFault)
deriving Repr, DecidableEq

namespace Error

/-- The wording of an error. -/
def message : Error → String
  | .schema fault => "Schema error: " ++ fault.message
  | .cardinality field expected => "Field " ++ field ++ " must be " ++ expected.name
  | .selector expression fault => "Invalid selector '" ++ expression ++ "': " ++ fault.message
  | .record fault => "Record error: " ++ fault.message
  | .fieldWrite field message => "Failed to write field " ++ field ++ ": " ++ message
  | .afterExtract message => "After-extract hook failed: " ++ message
  | .http fault => "HTTP error: " ++ fault.message
  | .network message => "Network error: " ++ message
  | .timeout seconds => "Request timed out after " ++ toString seconds ++ " seconds"
  | .config fault => "Config error: " ++ fault.message

/-- Whether an error is one of a model, which cannot be compiled then. -/
def isSchemaError : Error → Bool
  | .schema _ => true
  | .cardinality _ _ => true
  | .selector _ _ => true
  | _ => false

/-- Whether an error is one of a single page. -/
def isDocumentFatal : Error → Bool
  | .record _ => true
  | .fieldWrite _ _ => true
  | .afterExtract _ => true
  | _ => false

/-- No error is one of a model and of a page. -/
theorem not_isSchemaError_of_isDocumentFatal {e : Error} (h : e.isDocumentFatal = true) :
  e.isSchemaError = false
  := by
  cases e <;> first | rfl | cases h

end Error

end PageModel
