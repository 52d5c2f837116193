import PageModel.Html.Construction.Builder
import PageModel.Html.Construction.DocumentType

/-!
# Rules for the head of a document

The rules from the first token to the end of the head. What the text leaves out, the tags of
the document and of its head, is supplied.
-/

namespace PageModel.Html.Rules

open Build

/-- The innermost template closed, with all that was opened in it. -/
def popTemplate : Build Unit := do
  popThroughNamed ["template"]
  clearToMark
  change fun b => { b with templateModes := b.templateModes.drop 1 }
  resetMode

/-- The rules of the head that also hold elsewhere in the document: the end of a template. -/
def closeTemplate : Build Outcome := do
  if ← isOpen ["template"] then
    closeImpliedThoroughly
    popTemplate
  return .done

/-- The start of a template. -/
def openTemplate (t : Tag) : Build Outcome := do
  addMark
  refuseFrameset
  setMode .inTemplate
  change fun b => { b with templateModes := .inTemplate :: b.templateModes }
  openTag t
  return .done

/-- The start tags of elements that belong to the head wherever they stand. -/
def startInHead (t : Tag) : Build Outcome := do
  if ["base", "basefont", "bgsound", "link", "meta"].contains t.name then
    addVoid t
    return .done
  else if t.name = "title" then
    openTextElement t .escapable
    return .done
  else if t.name = "script" then
    openTextElement t .script
    return .done
  else if t.name = "template" then
    openTemplate t
  else
    openTextElement t .raw
    return .done

/-- More attributes for the element that the document consists of. -/
def addRootAttrs (t : Tag) : Build Outcome := do
  if !(← isOpen ["template"]) then
    match (← state).stack.getLast? with
    | some root => addAttrs root (t.attrsIn .html)
    | none => pure ()
  return .done

/-- The rules before the first token other than white space. -/
def initial (token : Token) : Build Outcome := do
  match token with
  | .blanks _ => return .done
  | .comment s =>
      addCommentIn 0 s
      return .done
  | .doctype d =>
      let i ← make (.doctype d.name)
      append 0 i
      change fun b => { b with isOld := d.isOld, mode := .beforeHtml }
      return .done
  | _ =>
      change fun b => { b with isOld := true }
      againIn .beforeHtml

/-- The element that a document consists of, made and opened. -/
def openRoot (t : Tag) : Build Unit := do
  let i ← makeElement .html "html" (t.attrsIn .html)
  push i
  append 0 i

/-- The end tags that close, in a document without them, the parts that come before its body. -/
def closesUnopened (name : String) : Bool :=
  ["body", "html", "br"].contains name

/-- The rules before the start tag of the document. -/
def beforeHtml (token : Token) : Build Outcome := do
  let supply : Build Outcome := do
    openRoot (bareTag "html")
    againIn .beforeHead
  match token with
  | .blanks _ => return .done
  | .comment s =>
      addCommentIn 0 s
      return .done
  | .startTag t =>
      if t.name = "html" then
        openRoot t
        setMode .beforeHead
        return .done
      else
        supply
  | .endTag t => if t.name = "head" || closesUnopened t.name then supply else return .done
  | _ => supply

/-- The head of a tag, opened and remembered. -/
def openHead (t : Tag) : Build Unit := do
  openTag t
  change fun b => { b with head := b.stack.head?, mode := .inHead }

/-- The rules before the head. -/
def beforeHead (token : Token) : Build Outcome := do
  let supply : Build Outcome := do
    openHead (bareTag "head")
    return .again
  match token with
  | .blanks _ => return .done
  | .comment s =>
      addComment s
      return .done
  | .startTag t =>
      if t.name = "html" then addRootAttrs t
      else if t.name = "head" then
        openHead t
        return .done
      else
        supply
  | .endTag t => if t.name = "head" || closesUnopened t.name then supply else return .done
  | _ => supply

/-- The rules in the head. -/
def inHead (token : Token) : Build Outcome := do
  let leave : Build Outcome := do
    pop
    againIn .afterHead
  match token with
  | .blanks s =>
      addText s
      return .done
  | .comment s =>
      addComment s
      return .done
  | .startTag t =>
      if t.name = "html" then addRootAttrs t
      else if headNames.contains t.name || t.name = "noscript" then startInHead t
      else if t.name = "head" then return .done
      else leave
  | .endTag t =>
      if t.name = "head" then
        pop
        setMode .afterHead
        return .done
      else if t.name = "template" then closeTemplate
      else if closesUnopened t.name then leave
      else return .done
  | _ => leave

/-- The rules between the head and the body. -/
def afterHead (token : Token) : Build Outcome := do
  let supply : Build Outcome := do
    openNamed "body"
    againIn .inBody
  match token with
  | .blanks s =>
      addText s
      return .done
  | .comment s =>
      addComment s
      return .done
  | .startTag t =>
      if t.name = "html" then addRootAttrs t
      else if t.name = "body" then
        openTag t
        refuseFrameset
        setMode .inBody
        return .done
      else if t.name = "frameset" then
        openTag t
        setMode .inFrameset
        return .done
      else if headNames.contains t.name then
        match (← state).head with
        | none => return .done
        | some head =>
            push head
            let outcome ← startInHead t
            removeFromStack head
            return outcome
      else if t.name = "head" then return .done
      else supply
  | .endTag t =>
      if t.name = "template" then closeTemplate
      else if closesUnopened t.name then supply
      else return .done
  | _ => supply

end PageModel.Html.Rules
