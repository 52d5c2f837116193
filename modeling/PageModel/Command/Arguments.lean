import PageModel.Command.Variables
import PageModel.Settings

/-!
# Arguments

What a command line asks for. There are three requests, each with options that take a value; the
directory of models may be named before the request or after it. Where an option is not given, a
variable may stand for it.
-/

namespace PageModel.Command

/-- What is asked for. -/
inductive Request where
  | extract (model : String) (urls : List String) (html : Option String)
      (concurrency : Option Nat)
  | check (model : String)
  | classify (model : String) (urls : List String)
deriving Repr, DecidableEq

/-- A command line that can be acted upon. -/
structure Arguments where
  modelsDir : String
  request : Request
deriving Repr, DecidableEq

/-- Why a command line is not acted upon: it asks for help or for the version, or it is wrong. -/
inductive Refusal where
  | help
  | version
  | wrong
deriving Repr, DecidableEq

/-! ### Options -/

/-- An option: its name after two dashes, and its letter after one. -/
structure OptionName where
  name : String
  letter : Option Char := none

/-- What stands on a command line: options with their values, and other arguments. -/
structure Parts where
  options : List (String × String) := []
  others : List String := []

/-- Whether an argument looks like an option. -/
def isOptionLike (arg : String) : Bool :=
  match arg.toList with
  | '-' :: _ :: _ => true
  | _ => false

/-- An option as it is written: its name, and the value that is attached to it. -/
inductive OptionUse where
  | option (name : String) (attached : Option String)
  | refused (r : Refusal)

/-- The option that an argument after two dashes names. -/
def longOption (options : List OptionName) (cs : List Char) : OptionUse :=
  let name := cs.takeWhile (· ≠ '=')
  let attached := if name.length < cs.length then some (String.ofList (cs.drop (name.length + 1)))
    else none
  match options.find? fun o => o.name.toList == name with
  | some o => .option o.name attached
  | none =>
      if cs == "help".toList then .refused .help else .refused .wrong

/-- The option that an argument after one dash names. -/
def shortOption (options : List OptionName) (cs : List Char) : OptionUse :=
  match cs with
  | [] => .refused .wrong
  | letter :: rest =>
      match options.find? fun o => o.letter = some letter with
      | some o =>
          .option o.name (match rest with
            | [] => none
            | '=' :: value => some (String.ofList value)
            | value => some (String.ofList value))
      | none => if letter = 'h' then .refused .help else .refused .wrong

/-- The option that an argument is, if it is one. -/
def writtenOption? (options : List OptionName) (arg : String) : Option OptionUse :=
  match arg.toList with
  | '-' :: '-' :: cs => some (longOption options cs)
  | '-' :: c :: cs => some (shortOption options (c :: cs))
  | _ => none

/-- The arguments of a request. An option without an attached value takes the argument after it. All
arguments after two dashes alone are no options. -/
def readParts (options : List OptionName) (p : Parts) : List String → Except Refusal Parts
  | [] => .ok p
  | arg :: args =>
      if arg = "--" then .ok { p with others := p.others ++ args }
      else
        match writtenOption? options arg with
        | none => readParts options { p with others := p.others ++ [arg] } args
        | some (.refused r) => .error r
        | some (.option name (some value)) =>
            readParts options { p with options := p.options ++ [(name, value)] } args
        | some (.option name none) =>
            match args with
            | [] => .error .wrong
            | value :: args =>
                if isOptionLike value then .error .wrong
                else readParts options { p with options := p.options ++ [(name, value)] } args

/-- The values of an option, in order. -/
def Parts.values (p : Parts) (name : String) : List String :=
  (p.options.filter fun o => o.1 == name).map (·.2)

/-- The value of an option that may be given once. -/
def Parts.value? (p : Parts) (name : String) : Except Refusal (Option String) :=
  match p.values name with
  | [] => .ok none
  | [value] => .ok (some value)
  | _ => .error .wrong

/-- The value of an option that has to be given once. -/
def Parts.value (p : Parts) (name : String) : Except Refusal String :=
  match p.value? name with
  | .ok (some value) => .ok value
  | .ok none => .error .wrong
  | .error r => .error r

/-- The path that is the value of an option that may be given once. It is not empty. -/
def Parts.path? (p : Parts) (name : String) : Except Refusal (Option String) :=
  match p.value? name with
  | .ok (some "") => .error .wrong
  | value => value

/-! ### Requests -/

/-- The option for the directory of models. -/
def modelsDirOption : OptionName := ⟨"models-dir", none⟩

/-- The option for the model. -/
def modelOption : OptionName := ⟨"model", some 'm'⟩

/-- The options of the request to extract. -/
def extractOptions : List OptionName :=
  [modelsDirOption, modelOption, ⟨"url", some 'u'⟩, ⟨"html", none⟩, ⟨"concurrency", some 'c'⟩]

/-- The number that an option or a variable gives. -/
def readCount : Option String → Except Refusal (Option Nat)
  | none => .ok none
  | some s =>
      match Settings.readUnsigned? s.toList with
      | some n => .ok (some n)
      | none => .error .wrong

/-- The request to extract. -/
def extractRequest (vars : Variables) (p : Parts) : Except Refusal Request := do
  let model ← p.value modelOption.name
  let html ← p.path? "html"
  let given ← p.value? "concurrency"
  let concurrency ← readCount (given.or (vars.lookup Settings.concurrencyName))
  let urls := p.values "url"
  if urls.isEmpty ∨ !p.others.isEmpty then .error .wrong
  else return .extract model urls html concurrency

/-- The request to check a model. -/
def checkRequest (p : Parts) : Except Refusal Request := do
  let model ← p.value modelOption.name
  if !p.others.isEmpty then .error .wrong else return .check model

/-- The request to classify URLs. -/
def classifyRequest (p : Parts) : Except Refusal Request := do
  let model ← p.value modelOption.name
  if p.others.isEmpty then .error .wrong else return .classify model p.others

/-- The request that a name and the arguments after it make, with the directory of models that these
name. -/
def readRequest (vars : Variables) (name : String) (args : List String) :
    Except Refusal (Option String × Request) :=
  match name with
  | "extract" => do
      let p ← readParts extractOptions {} args
      return (← p.path? modelsDirOption.name, ← extractRequest vars p)
  | "check" => do
      let p ← readParts [modelsDirOption, modelOption] {} args
      return (← p.path? modelsDirOption.name, ← checkRequest p)
  | "match" => do
      let p ← readParts [modelsDirOption, modelOption] {} args
      return (← p.path? modelsDirOption.name, ← classifyRequest p)
  | "help" => .error .help
  | _ => .error .wrong

/-- The name of the variable for the directory of models. -/
def modelsDirName : String := "SIFT_MODELS_DIR"

/-- The directory of models that a variable names. It is not empty. -/
def modelsDirFrom (vars : Variables) : Except Refusal String :=
  match vars.lookup modelsDirName with
  | none => .ok "models"
  | some "" => .error .wrong
  | some path => .ok path

/-- What a command line asks for, `named` being the directory of models that it has named so far. -/
def readArguments (vars : Variables) (named : Option String) :
    List String → Except Refusal Arguments
  | [] => .error .wrong
  | arg :: args =>
      if arg = "--version" ∨ arg = "-V" then .error .version
      else
        match writtenOption? [modelsDirOption] arg with
        | some (.refused r) => .error r
        | some (.option _ (some path)) =>
            if named.isSome ∨ path = "" then .error .wrong
            else readArguments vars (some path) args
        | some (.option _ none) =>
            match args with
            | [] => .error .wrong
            | path :: args =>
                if named.isSome ∨ path = "" ∨ isOptionLike path then .error .wrong
                else readArguments vars (some path) args
        | none => do
            let (inner, request) ← readRequest vars arg args
            match inner.or named with
            | some modelsDir => return ⟨modelsDir, request⟩
            | none => return ⟨← modelsDirFrom vars, request⟩

end PageModel.Command
