import PageModel.Address
import PageModel.Command.Arguments
import PageModel.Pipeline.Run
import PageModel.Resolver

/-!
# Requests carried out

A request names a model, which is found and compiled first. Then records are extracted and written
line by line, or the model is described, or URLs are told apart. What keeps a request from being
carried out is reported with its cause.
-/

namespace PageModel.Command

/-- What comes of a command line: the exit status, and what is written to the two outputs. -/
structure Outcome where
  status : Nat := 0
  output : String := ""
  errors : String := ""
deriving Repr, DecidableEq

/-- What keeps a request from being carried out. -/
inductive Failure where
  | loading (reference : String) (cause : Error)
  | declaring (model : String) (cause : Error)
  | compiling (model : String) (cause : Error)
  | settings (cause : Error)
  | htmlFile (path : String) (cause : Files.Fault)
  | urlCount (count : Nat)
  | extraction (cause : Error)
  | failedPages (count : Nat)
deriving Repr, DecidableEq

namespace Failure

/-- The wording of a failure. -/
def message : Failure → String
  | .loading reference _ => "Failed to load model " ++ reference
  | .declaring model _ => "Invalid model " ++ model
  | .compiling model _ => "Failed to compile model " ++ model
  | .settings _ => "Invalid pipeline configuration"
  | .htmlFile path _ => "Failed to read HTML file: " ++ path
  | .urlCount count => "--html takes exactly one --url, got " ++ toString count
  | .extraction cause => cause.message
  | .failedPages count => toString count ++ " page(s) failed"

/-- The wording of the cause of a failure, if it has one. -/
def cause? : Failure → Option String
  | .loading _ cause => some cause.message
  | .declaring _ cause => some cause.message
  | .compiling _ cause => some cause.message
  | .settings cause => some cause.message
  | .htmlFile _ cause => some cause.message
  | .urlCount _ => none
  | .extraction _ => none
  | .failedPages _ => none

/-- A text with its lines after the first indented. -/
def indented (s : String) : String :=
  String.ofList (s.toList.flatMap fun c =>
    if c = '\n' then "\n    ".toList else [c])

/-- The report of a failure. -/
def report (f : Failure) : String :=
  "Error: " ++ f.message ++ (match f.cause? with
    | none => "\n"
    | some cause => "\n\nCaused by:\n    " ++ indented cause ++ "\n")

end Failure

/-- What has been written before a request ended, and the failure if it ended in one. -/
structure Written where
  output : String := ""
  failure : Option Failure := none

/-- The outcome of a request. -/
def Written.outcome (w : Written) : Outcome :=
  match w.failure with
  | none => { output := w.output }
  | some f => { status := 1, output := w.output, errors := f.report }

/-! ### Models -/

/-- The extractor of a model that was found. -/
def compileResolved (m : ResolvedModel) : Except Failure (Extractor Record) :=
  match m.spec.toSchema with
  | .error e => .error (.declaring m.name e)
  | .ok schema =>
      match schema.compile with
      | .error e => .error (.compiling m.name e)
      | .ok x => .ok x

/-- The extractor of the model that a reference leads to. -/
def loadExtractor {m : Type → Type} [Monad m] (r : Resolver m) (reference : String) :
    m (Except Failure (Extractor Record)) := do
  match ← r.resolve reference with
  | .error e => return .error (.loading reference e)
  | .ok model => return compileResolved model

/-! ### Extracting -/

/-- The line for a record. -/
def recordLine (url : String) (record : Record) : String :=
  (Json.Value.object [("record", record.toValue), ("url", .string url)]).text ++ "\n"

/-- The record of a page written, unless the page is no target or is to be dropped. -/
def extractPage (x : Extractor Record) (page : Page) : Written :=
  match x.tryApply page with
  | (.error e, _) => { failure := some (.extraction e) }
  | (.ok none, _) => {}
  | (.ok (some record), after) =>
      if after.skip then {} else { output := recordLine page.url record }

/-- The records of pages that are fetched. -/
def extractFetched (x : Extractor Record) (vars : Variables)
    (fetch : Settings → String → Pipeline.Arrival) (urls : List String)
    (concurrency : Option Nat) : Written :=
  match Settings.read (vars.lookup Settings.concurrencyName)
      (vars.lookup Settings.timeoutName) with
  | .error e => { failure := some (.settings e) }
  | .ok settings =>
      let settings := match concurrency with
        | some n => settings.withConcurrency n
        | none => settings
      let s := Pipeline.run ⟨x, fetch settings, settings.concurrency⟩ .inOrder urls
      { output := String.join (s.records.map fun r => recordLine r.url r.record)
        failure := if 0 < s.stats.failed then some (.failedPages s.stats.failed) else none }

/-- The record of a page whose text is in a file. -/
def extractFile {m : Type → Type} [Monad m] (x : Extractor Record) (files : Files.Access m)
    (urls : List String) (path : String) : m Written := do
  match urls with
  | [url] =>
      match ← files.readText path with
      | .error fault => return { failure := some (.htmlFile path fault) }
      | .ok html => return extractPage x { url, html }
  | _ => return { failure := some (.urlCount urls.length) }

/-! ### Describing and classifying -/

/-- A text with blanks after it up to a width. -/
def padded (width : Nat) (s : String) : String :=
  s ++ String.ofList (List.replicate (width - s.length) ' ')

/-- The line for a rule of a field. -/
def ruleLine (r : FieldRule Record) : String :=
  "  " ++ padded 16 r.name ++ " " ++ padded 5 (if r.multi then "list" else "text") ++ " "
    ++ padded 6 (match r.source with | .body => "body" | .url => "url") ++ " "
    ++ r.selector.expression ++ (if r.required then "  (required)" else "") ++ "\n"

/-- The lines for the rules about URLs: those for patterns and that for a region. -/
def ruleSetLines (label region : String) (s : UrlRuleSet) : String :=
  String.join (s.patterns.map fun p => "  " ++ label ++ p.source ++ "\n")
    ++ (match s.region with
      | some r => "  " ++ region ++ r.expression ++ "\n"
      | none => "")

/-- The description of a model. -/
def describeModel (x : Extractor Record) : String :=
  "Model: " ++ x.name ++ "\n" ++ ruleSetLines "target  " "target region  " x.target
    ++ ruleSetLines "help    " "help region  " x.help ++ "Fields:\n"
    ++ String.join (x.rules.map ruleLine)

/-- What a URL is for a model. One that is both is a target. -/
def urlClass (x : Extractor Record) (url : String) : String :=
  if x.target.isMatch url then "target" else if x.help.isMatch url then "help" else "none"

/-- The classes of URLs. -/
def classifyUrls (x : Extractor Record) (urls : List String) : String :=
  String.join (urls.map fun url => urlClass x url ++ "\t" ++ url ++ "\n")

/-! ### Requests -/

/-- A request carried out. -/
def carryOut {m : Type → Type} [Monad m] (files : Files.Access m) (vars : Variables)
    (fetch : Settings → String → Pipeline.Arrival) (a : Arguments) : m Written := do
  let load (reference : String) (act : Extractor Record → m Written) : m Written := do
    match ← loadExtractor ⟨files, a.modelsDir⟩ reference with
    | .error f => return { failure := some f }
    | .ok x => act x
  match a.request with
  | .extract model urls html concurrency =>
      load model fun x =>
        match html with
        | some path => extractFile x files urls path
        | none => return extractFetched x vars fetch urls concurrency
  | .check model => load model fun x => return { output := describeModel x }
  | .classify model urls => load model fun x => return { output := classifyUrls x urls }

/-- How requests are written. -/
def usage : String :=
  "Usage: sift [--models-dir DIR] extract --model MODEL --url URL... [--html FILE] "
    ++ "[--concurrency N]\n"
    ++ "       sift [--models-dir DIR] check --model MODEL\n"
    ++ "       sift [--models-dir DIR] match --model MODEL URL...\n"

/-- The outcome of a command line that is not acted upon. -/
def Refusal.outcome : Refusal → Outcome
  | .help => { output := usage }
  | .version => { output := "sift 0.1.0\n" }
  | .wrong => { status := 2, errors := usage }

/-- The name of the file with variables. -/
def variablesFile : String := ".env"

/-- The outcome of a command line. -/
def run {m : Type → Type} [Monad m] (files : Files.Access m) (vars : Variables)
    (fetch : Settings → String → Pipeline.Arrival) (args : List String) : m Outcome := do
  let vars ← do
    match ← files.readText variablesFile with
    | .ok text => pure (vars.withFile text)
    | .error _ => pure vars
  match readArguments vars none args with
  | .error r => return r.outcome
  | .ok a => return (← carryOut files vars fetch a).outcome

/-- What comes of fetching where there is no network: an address that may not be fetched is refused,
and any other cannot be reached. -/
def offline (_ : Settings) (url : String) : Pipeline.Arrival :=
  match Address.check url with
  | .error e => .failed e
  | .ok _ => .failed (.network ("Connection failed: " ++ url))

end PageModel.Command
