/-!
# Pages

A page is a document that was fetched: its URL, its HTML text, and whether its record is to be
dropped.
-/

namespace PageModel

/-- A page. -/
structure Page where
  url : String
  html : String
  skip : Bool := false
deriving Repr, DecidableEq

namespace Page

/-- A page whose record is to be dropped if `skip` holds, and kept otherwise. -/
def withSkip (p : Page) (skip : Bool) : Page :=
  { p with skip }

/-- A page whose record is to be dropped, if it was before or `missing` holds. -/
def skippedIf (p : Page) (missing : Bool) : Page :=
  { p with skip := p.skip || missing }

@[simp] theorem skippedIf_url (p : Page) (missing : Bool) :
  (p.skippedIf missing).url = p.url
  := rfl

@[simp] theorem skippedIf_html (p : Page) (missing : Bool) :
  (p.skippedIf missing).html = p.html
  := rfl

@[simp] theorem skippedIf_skip (p : Page) (missing : Bool) :
  (p.skippedIf missing).skip = (p.skip || missing)
  := rfl

@[simp] theorem skippedIf_false (p : Page) :
  p.skippedIf false = p
  := by
  rw [skippedIf, Bool.or_false]

@[simp] theorem skippedIf_skippedIf (p : Page) (missing missing' : Bool) :
  (p.skippedIf missing).skippedIf missing' = p.skippedIf (missing || missing')
  := by
  simp only [skippedIf, Bool.or_assoc]

end Page

end PageModel
