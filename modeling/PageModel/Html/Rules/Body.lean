import PageModel.Html.Construction.Adoption
import PageModel.Html.Rules.Head

/-!
# Rules for the body of a document

The rules for most of a document: blocks close the open paragraph, formatting elements are
opened again in new blocks, list items and headings close their predecessors, and an end tag
closes what was opened in its element.
-/

namespace PageModel.Html.Rules

open Build

/-- The end of a document while templates are open: they are closed one by one. -/
def endInTemplate : Build Outcome := do
  if ← isOpen ["template"] then
    popTemplate
    return .again
  else
    return .done

/-- The element of the body, if the document has one. -/
def body? : Build (Option Nat) := do
  let b ← state
  match b.stack.reverse with
  | _ :: second :: _ =>
      if (b.arena.content second).elementName.isHtml ["body"] then return some second
      else return none
  | _ => return none

/-- Whether a tag is that of a hidden input. -/
def isHiddenInput (t : Tag) : Bool :=
  t.name == "input"
    && t.attrs.any fun a => a.1 == "type" && asciiLowerText a.2 == "hidden"

/-- The name of the open list item that an item closes, if one is open with no special element
between, but for those that hold items. -/
def openItem? (arena : Arena) (names : List String) : List Nat → Option String
  | [] => none
  | i :: below =>
      let n := (arena.content i).elementName
      if n.isHtml names then some n.2
      else if n.isSpecial && !n.isHtml ["address", "div", "p"] then none
      else openItem? arena names below

/-- The start of a list item, which closes the open one. -/
def startItem (t : Tag) (names : List String) : Build Outcome := do
  refuseFrameset
  let b ← state
  match openItem? b.arena names b.stack with
  | some name =>
      closeImplied name
      popThroughNamed [name]
  | none => pure ()
  closeParagraphInScope
  openTag t
  return .done

/-- The start of a formatting element. -/
def startFormatting (t : Tag) : Build Outcome := do
  if t.name = "a" then
    match (sinceMark (← state).formatting).find? (·.2.name == "a") with
    | some (i, _) =>
        closeFormatting "a"
        removeFormatting i
        removeFromStack i
    | none => pure ()
    reopenFormatting
  else
    reopenFormatting
    if t.name = "nobr" then
      if ← inScope ["nobr"] then
        closeFormatting "nobr"
        reopenFormatting
  openFormatting t
  return .done

/-- The start of foreign content. -/
def startForeign (t : Tag) (v : Vocabulary) : Build Outcome := do
  reopenFormatting
  let i ← addElement v t.name (t.attrsIn v)
  if !t.selfClosing then push i
  return .done

/-- The start of an element that holds nothing. -/
def startVoid (t : Tag) : Build Outcome := do
  if t.name = "input" then
    if ← inScope ["select"] then popThroughNamed ["select"]
  reopenFormatting
  addVoid t
  if !isHiddenInput t then refuseFrameset
  return .done

/-- The start of an option or of a group of options. -/
def startOption (t : Tag) : Build Outcome := do
  if ← inScope ["select"] then
    closeImplied (if t.name = "option" then "optgroup" else "")
  else if ← currentIs ["option"] then
    pop
  reopenFormatting
  openTag t
  return .done

/-- The start of an element in the body. -/
def startInBody (t : Tag) : Build Outcome := do
  let name := t.name
  if name = "html" then addRootAttrs t
  else if headNames.contains name then startInHead t
  else if name = "body" then
    match ← body? with
    | some i =>
        if !(← isOpen ["template"]) then
          refuseFrameset
          addAttrs i (t.attrsIn .html)
    | none => pure ()
    return .done
  else if name = "frameset" then
    if (← state).framesetOk then
      match ← body? with
      | some i =>
          detach i
          change fun b => { b with stack := b.stack.drop (b.stack.length - 1) }
          openTag t
          setMode .inFrameset
      | none => pure ()
    return .done
  else if blockNames.contains name then
    closeParagraphInScope
    openTag t
    return .done
  else if headingNames.contains name then
    closeParagraphInScope
    if ← currentIs headingNames then pop
    openTag t
    return .done
  else if name = "pre" || name = "listing" then
    closeParagraphInScope
    openTag t
    dropNextLineFeed
    refuseFrameset
    return .done
  else if name = "form" then
    let inTemplate ← isOpen ["template"]
    if (← state).form.isNone || inTemplate then
      closeParagraphInScope
      openTag t
      if !inTemplate then change fun b => { b with form := b.stack.head? }
    return .done
  else if name = "li" then startItem t ["li"]
  else if name = "dd" || name = "dt" then startItem t ["dd", "dt"]
  else if name = "plaintext" then
    closeParagraphInScope
    openTag t
    readTextAs .plain name
    return .done
  else if name = "button" then
    if ← inScope ["button"] then
      closeImplied ""
      popThroughNamed ["button"]
    reopenFormatting
    openTag t
    refuseFrameset
    return .done
  else if formattingNames.contains name then startFormatting t
  else if ["applet", "marquee", "object"].contains name then
    reopenFormatting
    openTag t
    addMark
    refuseFrameset
    return .done
  else if name = "table" then
    if !(← state).isOld then closeParagraphInScope
    openTag t
    refuseFrameset
    setMode .inTable
    return .done
  else if ["area", "br", "embed", "img", "keygen", "wbr", "input"].contains name then startVoid t
  else if name = "image" then startVoid { t with name := "img" }
  else if ["param", "source", "track"].contains name then
    addVoid t
    return .done
  else if name = "hr" then
    closeParagraphInScope
    if ← inScope ["select"] then closeImplied ""
    addVoid t
    refuseFrameset
    return .done
  else if name = "textarea" then
    dropNextLineFeed
    refuseFrameset
    openTextElement t .escapable
    return .done
  else if name = "xmp" then
    closeParagraphInScope
    reopenFormatting
    refuseFrameset
    openTextElement t .raw
    return .done
  else if name = "iframe" then
    refuseFrameset
    openTextElement t .raw
    return .done
  else if name = "noembed" || name = "noscript" then
    openTextElement t .raw
    return .done
  else if name = "select" then
    if ← inScope ["select"] then
      popThroughNamed ["select"]
    else
      reopenFormatting
      openTag t
      refuseFrameset
    return .done
  else if name = "option" || name = "optgroup" then startOption t
  else if name = "rb" || name = "rtc" then
    if ← inScope ["ruby"] then closeImplied ""
    openTag t
    return .done
  else if name = "rp" || name = "rt" then
    if ← inScope ["ruby"] then closeImplied "rtc"
    openTag t
    return .done
  else if name = "math" then startForeign t .mathml
  else if name = "svg" then startForeign t .svg
  else if ["frame", "head"].contains name || tablePartNames.contains name then return .done
  else
    reopenFormatting
    openTag t
    return .done

/-- The end of a form. -/
def endForm : Build Outcome := do
  if ← isOpen ["template"] then
    if ← inScope ["form"] then
      closeImplied ""
      popThroughNamed ["form"]
  else
    match (← state).form with
    | none => pure ()
    | some i =>
        change fun b => { b with form := none }
        if ← inScopeWhere ElementName.boundsScope fun j _ => i == j then
          closeImplied ""
          removeFromStack i
  return .done

/-- The end of an element in the body. -/
def endInBody (t : Tag) : Build Outcome := do
  let name := t.name
  if name = "template" then closeTemplate
  else if name = "body" then
    if ← inScope ["body"] then setMode .afterBody
    return .done
  else if name = "html" then
    if ← inScope ["body"] then againIn .afterBody else return .done
  else if blockEndNames.contains name then
    if ← inScope [name] then
      closeImplied ""
      popThroughNamed [name]
    return .done
  else if name = "form" then endForm
  else if name = "p" then
    if !(← inButtonScope ["p"]) then openNamed "p"
    closeParagraph
    return .done
  else if name = "li" then
    if ← inScopeWhere ElementName.boundsListScope fun _ n => n.isHtml ["li"] then
      closeImplied "li"
      popThroughNamed ["li"]
    return .done
  else if name = "dd" || name = "dt" then
    if ← inScope [name] then
      closeImplied name
      popThroughNamed [name]
    return .done
  else if headingNames.contains name then
    if ← inScope headingNames then
      closeImplied ""
      popThroughNamed headingNames
    return .done
  else if formattingNames.contains name then
    closeFormatting name
    return .done
  else if ["applet", "marquee", "object"].contains name then
    if ← inScope [name] then
      closeImplied ""
      popThroughNamed [name]
      clearToMark
    return .done
  else if name = "br" then startVoid (bareTag "br")
  else
    closeOther name
    return .done

/-- The rules in the body. -/
def inBody (token : Token) : Build Outcome := do
  match token with
  | .null => return .done
  | .blanks s =>
      reopenFormatting
      addText s
      return .done
  | .chars s =>
      reopenFormatting
      addText s
      refuseFrameset
      return .done
  | .comment s =>
      addComment s
      return .done
  | .doctype _ => return .done
  | .startTag t => startInBody t
  | .endTag t => endInBody t
  | .eof => if (← state).templateModes.isEmpty then return .done else endInTemplate

/-- The rules in an element whose content is text. -/
def text (token : Token) : Build Outcome := do
  match token with
  | .blanks s =>
      addText s
      return .done
  | .chars s =>
      addText s
      return .done
  | .eof =>
      pop
      againIn (← state).returnMode
  | .endTag _ =>
      pop
      setMode (← state).returnMode
      return .done
  | _ => return .done

end PageModel.Html.Rules
