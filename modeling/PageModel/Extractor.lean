import PageModel.Schema

/-!
# Extractors

A schema is compiled once and then applied to pages. Compiling stops at the first fault: of the
rules for URLs, then of the fields one after the other. An extractor makes a record of a page whose
URL is a target: it starts a record, fills the fields in their order, and hands the record to the
schema's own code at the end. A page that lacks the value of a required field is marked to be
dropped.
-/

namespace PageModel

/-! ### Rules -/

/-- What a rule writes into. -/
inductive Sink (ρ : Type) where
  | text (w : Writing ρ (Option String))
  | list (w : Writing ρ (List String))

/-- A rule of a field that can be applied to pages. -/
structure FieldRule (ρ : Type) where
  name : String
  selector : Selector
  source : Source
  required : Bool
  sink : Sink ρ

/-- What is written into, where what a field takes fits the number of values of its rule. -/
def Slot.sink? {ρ : Type} (slot : Slot ρ) (multi : Bool) : Except Cardinality (Sink ρ) :=
  match slot, multi with
  | .list w, true => .ok (.list w)
  | .text w, false => .ok (.text w)
  | _, true => .error .list
  | _, false => .error .single

/-- The value of a field. -/
inductive FieldValue where
  | text (v : Option String)
  | list (vs : List String)
deriving Repr, DecidableEq

/-- Whether nothing was selected. -/
def FieldValue.isMissing : FieldValue → Bool
  | .text v => v.isNone
  | .list vs => vs.isEmpty

namespace FieldRule

variable {ρ : Type}

/-- Whether a rule takes a list of values. -/
def multi (r : FieldRule ρ) : Bool :=
  match r.sink with
  | .text _ => false
  | .list _ => true

/-- Whether the field of a rule has a writer. -/
def hasWriter (r : FieldRule ρ) : Bool :=
  match r.sink with
  | .text w => w.writer.isSome
  | .list w => w.writer.isSome

/-- The text of a page that a rule looks at. -/
def input (r : FieldRule ρ) (page : Page) : String :=
  match r.source with
  | .body => page.html
  | .url => page.url

/-- The value that a rule selects on a page. -/
def value (r : FieldRule ρ) (page : Page) : FieldValue :=
  match r.sink with
  | .text _ => .text (r.selector.select (r.input page))
  | .list _ => .list (r.selector.selectAll (r.input page))

/-- Whether a page lacks a value that a rule requires. -/
def lacks (r : FieldRule ρ) (page : Page) : Bool :=
  r.required && (r.value page).isMissing

end FieldRule

/-! ### Compiling -/

/-- An extractor: a schema that can be applied to pages. -/
structure Extractor (ρ : Type) where
  name : String
  target : UrlRuleSet
  help : UrlRuleSet
  rules : List (FieldRule ρ)
  factory : Except Error ρ
  afterExtract : Option (ρ → Page → Except Error ρ)

variable {ρ : Type}

/-- The rule of a field, if the field has one. -/
def Field.compile (f : Field ρ) : Except Error (Option (FieldRule ρ)) :=
  if f.conflicting then .error (.schema (.bothRules f.name))
  else
    match f.rule with
    | none => .ok none
    | some r =>
        match r.build with
        | .error e => .error e
        | .ok selector =>
            match f.slot.sink? r.multi with
            | .error expected => .error (.cardinality f.name expected)
            | .ok sink => .ok (some ⟨f.name, selector, r.source, r.required, sink⟩)

/-- The rules of fields, or the error of the first field that has one. -/
def compileFields : List (Field ρ) → Except Error (List (FieldRule ρ))
  | [] => .ok []
  | f :: fs =>
      match f.compile with
      | .error e => .error e
      | .ok r => (compileFields fs).map fun rs => r.toList ++ rs

/-- The extractor of a schema. -/
def Schema.compile (s : Schema ρ) : Except Error (Extractor ρ) :=
  match UrlRuleSet.target s.targetUrl with
  | .error e => .error e
  | .ok target =>
      match UrlRuleSet.help s.helpUrl with
      | .error e => .error e
      | .ok help =>
          (compileFields s.fields).map fun rules =>
            ⟨s.name, target, help, rules, s.factory, s.afterExtract⟩

/-! ### Applying -/

/-- A call into the code that a schema brings along. -/
inductive Call where
  | factory
  | writer (field : String) (value : FieldValue)
  | assign (field : String) (value : FieldValue)
  | hook
deriving Repr, DecidableEq

/-- A value written into a record, with the calls that this takes. -/
def Writing.write {α : Type} (w : Writing ρ α) (field : String) (wrap : α → FieldValue)
    (record : ρ) (value : α) : Except Error ρ × List Call :=
  match w.writer with
  | none => (.ok (w.assign record value), [.assign field (wrap value)])
  | some writer =>
      match writer record value with
      | .error e => (.error (.fieldWrite field e.message), [.writer field (wrap value)])
      | .ok record =>
          (.ok (w.assign record value),
            [.writer field (wrap value), .assign field (wrap value)])

/-- The value that a rule selects on a page written into a record. -/
def FieldRule.write (r : FieldRule ρ) (record : ρ) (page : Page) :
    Except Error ρ × List Call :=
  match r.sink with
  | .text w => w.write r.name .text record (r.selector.select (r.input page))
  | .list w => w.write r.name .list record (r.selector.selectAll (r.input page))

/-- What a run of an extractor on a page comes to: the record, if there is one, or an error, the
page with its mark, and the calls that were made. -/
structure Run (ρ : Type) where
  result : Except Error (Option ρ)
  page : Page
  calls : List Call

/-- The rules applied to a record one after the other, up to the first that fails. -/
def applyRules : List (FieldRule ρ) → ρ → Page → Except Error ρ × Page × List Call
  | [], record, page => (.ok record, page, [])
  | r :: rs, record, page =>
      match r.write record page with
      | (.error e, calls) => (.error e, page, calls)
      | (.ok record, calls) =>
          let (result, page, more) := applyRules rs record (page.skippedIf (r.lacks page))
          (result, page, calls ++ more)

/-- The error of a record that could not be started. -/
def Error.ofFactory : Error → Error
  | .record fault => .record fault
  | e => .record (.stated e.message)

/-- The error of a record that was refused at the end. -/
def Error.ofHook : Error → Error
  | .afterExtract message => .afterExtract message
  | e => .afterExtract e.message

namespace Extractor

/-- A record handed to the schema's own code. -/
def finish (x : Extractor ρ) (record : ρ) (page : Page) : Except Error ρ × List Call :=
  match x.afterExtract with
  | none => (.ok record, [])
  | some hook =>
      match hook record page with
      | .ok record => (.ok record, [.hook])
      | .error e => (.error e.ofHook, [.hook])

/-- A run of an extractor on a page. -/
def run (x : Extractor ρ) (page : Page) : Run ρ :=
  if x.target.isMatch page.url then
    match x.factory with
    | .error e => ⟨.error e.ofFactory, page, [.factory]⟩
    | .ok record =>
        match applyRules x.rules record page with
        | (.error e, page, calls) => ⟨.error e, page, .factory :: calls⟩
        | (.ok record, page, calls) =>
            let (result, last) := x.finish record page
            ⟨result.map some, page, .factory :: (calls ++ last)⟩
  else
    ⟨.ok none, page, []⟩

/-- The record that an extractor makes of a page, if it makes one, or the error; and the page with
its mark. -/
def tryApply (x : Extractor ρ) (page : Page) : Except Error (Option ρ) × Page :=
  ((x.run page).result, (x.run page).page)

/-- The record that an extractor makes of a page, where an error counts as none; and the page with
its mark. -/
def apply (x : Extractor ρ) (page : Page) : Option ρ × Page :=
  (match (x.run page).result with
    | .ok record => record
    | .error _ => none,
    (x.run page).page)

/-- The selector of the part of a target page in which links count. -/
def targetRegion (x : Extractor ρ) : Option Selector :=
  x.target.region

/-- The selector of the part of a visited page in which links count. -/
def helpRegion (x : Extractor ρ) : Option Selector :=
  x.help.region

end Extractor

end PageModel
