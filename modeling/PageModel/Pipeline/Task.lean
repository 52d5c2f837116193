import PageModel.Extractor

/-!
# Tasks

The work on one URL: its page is fetched, unless the URL is no target, and a record is extracted.
The page may have another URL than was asked for, and that one has to be a target as well. A
record of a page that is marked to be dropped counts as none.
-/

namespace PageModel.Pipeline

/-- What fetching a page comes to for the task that asked for it: a page, an error, or the crash of
the task, be it over the request or over the page that came. -/
inductive Arrival where
  | page (p : Page)
  | failed (e : Error)
  | crashed (text : String)
deriving Repr, DecidableEq

/-- What the work on a URL comes to. -/
inductive Outcome (ρ : Type) where
  | extracted (record : ρ)
  | skipped
  | rejected
  | failed (e : Error)
deriving Repr, DecidableEq

/-- How a task ends: with an outcome, or by a crash, which gives no account of the URL. -/
inductive Ending (ρ : Type) where
  | finished (outcome : Outcome ρ)
  | crashed (text : String)
deriving Repr, DecidableEq

/-- A task that has ended: the URLs for which it asked, and how it ended. -/
structure Work (ρ : Type) where
  requests : List String
  ending : Ending ρ
deriving Repr, DecidableEq

variable {ρ : Type}

/-- The outcome of a page that was fetched. -/
def classify (x : Extractor ρ) (page : Page) : Outcome ρ :=
  match x.tryApply page with
  | (.error e, _) => .failed e
  | (.ok none, _) => .rejected
  | (.ok (some record), page) => if page.skip then .skipped else .extracted record

/-- How a task ends after its page has been asked for. -/
def endingOf (x : Extractor ρ) : Arrival → Ending ρ
  | .page page => .finished (classify x page)
  | .failed e => .finished (.failed e)
  | .crashed text => .crashed text

/-- The work on a URL, given what comes of fetching its page if that is asked for. -/
def work (x : Extractor ρ) (arrival : Arrival) (url : String) : Work ρ :=
  if x.target.isMatch url then ⟨[url], endingOf x arrival⟩
  else ⟨[], .finished .rejected⟩

end PageModel.Pipeline
