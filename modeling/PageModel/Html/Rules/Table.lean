import PageModel.Html.Rules.Body

/-!
# Rules for tables

A table holds captions, groups of columns and rows, and rows hold cells; the tags of groups and
rows that the text leaves out are supplied. What a table cannot hold is read by the rules of the
body and put in front of the table.
-/

namespace PageModel.Html.Rules

open Build

/-- A token handled by the rules of the body, what they add being put in front of the table. -/
def fostered (token : Token) : Build Outcome := do
  change fun b => { b with fostering := true }
  let outcome ← inBody token
  change fun b => { b with fostering := false }
  return outcome

/-- The elements that text in a table stands in without a cell. -/
def tableOuterNames : List String :=
  ["table", "tbody", "template", "tfoot", "thead", "tr"]

/-- Text in a table, to be gathered before it is known where it goes. -/
def gatherTableText (token : Token) : Build Outcome := do
  if ← currentIs tableOuterNames then
    change fun b => { b with tableText := [], returnMode := b.mode, mode := .inTableText }
    return .again
  else
    fostered token

/-- Elements closed up to the table, a template or the document. -/
def clearToTable : Build Unit :=
  popToNamed ["table", "template", "html"]

/-- Elements closed up to a group of rows, a template or the document. -/
def clearToRowGroup : Build Unit :=
  popToNamed ["tbody", "tfoot", "thead", "template", "html"]

/-- Elements closed up to a row, a template or the document. -/
def clearToRow : Build Unit :=
  popToNamed ["tr", "template", "html"]

/-- The end of the open table, if one is in scope. -/
def closeTable : Build Bool := do
  if ← inTableScope ["table"] then
    popThroughNamed ["table"]
    resetMode
    return true
  else
    return false

/-- The rules in a table. -/
def inTable (token : Token) : Build Outcome := do
  match token with
  | .null => gatherTableText token
  | .blanks _ => gatherTableText token
  | .chars _ => gatherTableText token
  | .comment s =>
      addComment s
      return .done
  | .doctype _ => return .done
  | .startTag t =>
      let name := t.name
      if name = "caption" then
        clearToTable
        addMark
        openTag t
        setMode .inCaption
        return .done
      else if name = "colgroup" then
        clearToTable
        openTag t
        setMode .inColumnGroup
        return .done
      else if name = "col" then
        clearToTable
        openNamed "colgroup"
        againIn .inColumnGroup
      else if rowGroupNames.contains name then
        clearToTable
        openTag t
        setMode .inTableBody
        return .done
      else if ["td", "th", "tr"].contains name then
        clearToTable
        openNamed "tbody"
        againIn .inTableBody
      else if name = "table" then
        if ← closeTable then return .again else return .done
      else if ["style", "script", "template"].contains name then startInHead t
      else if isHiddenInput t then
        addVoid t
        return .done
      else if name = "form" then
        if (← state).form.isNone && !(← isOpen ["template"]) then
          let i ← addElement .html name (t.attrsIn .html)
          change fun b => { b with form := some i }
        return .done
      else
        fostered token
  | .endTag t =>
      let name := t.name
      if name = "table" then
        let _ ← closeTable
        return .done
      else if ["body", "html"].contains name || tablePartNames.contains name then return .done
      else if name = "template" then closeTemplate
      else fostered token
  | .eof => inBody .eof

/-- Whether a token is text other than white space. -/
def isSolidText : Token → Bool
  | .chars _ => true
  | _ => false

/-- Tokens handled in front of the table, one after the other. -/
def fosterAll : List Token → Build Unit
  | [] => pure ()
  | t :: ts => do
      let _ ← fostered t
      fosterAll ts

/-- Tokens of text added where the document is being read, one after the other. -/
def addTexts : List Token → Build Unit
  | [] => pure ()
  | .blanks s :: ts => do
      addText s
      addTexts ts
  | .chars s :: ts => do
      addText s
      addTexts ts
  | _ :: ts => addTexts ts

/-- The rules for text in a table: white space stays, other text goes in front of the table. -/
def inTableText (token : Token) : Build Outcome := do
  match token with
  | .null => return .done
  | .blanks _ =>
      change fun b => { b with tableText := token :: b.tableText }
      return .done
  | .chars _ =>
      change fun b => { b with tableText := token :: b.tableText }
      return .done
  | _ =>
      let texts := (← state).tableText.reverse
      change fun b => { b with tableText := [] }
      if texts.any isSolidText then fosterAll texts else addTexts texts
      againIn (← state).returnMode

/-- The end of the open caption, if one is in scope. -/
def closeCaption : Build Bool := do
  if ← inTableScope ["caption"] then
    closeImplied ""
    popThroughNamed ["caption"]
    clearToMark
    setMode .inTable
    return true
  else
    return false

/-- The rules in a caption. -/
def inCaption (token : Token) : Build Outcome := do
  match token with
  | .startTag t =>
      if tablePartNames.contains t.name then
        if ← closeCaption then return .again else return .done
      else
        inBody token
  | .endTag t =>
      if t.name = "caption" then
        let _ ← closeCaption
        return .done
      else if t.name = "table" then
        if ← closeCaption then return .again else return .done
      else if ["body", "html"].contains t.name || tablePartNames.contains t.name then
        return .done
      else
        inBody token
  | _ => inBody token

/-- The rules in a group of columns. -/
def inColumnGroup (token : Token) : Build Outcome := do
  let leave : Build Outcome := do
    if ← currentIs ["colgroup"] then
      pop
      againIn .inTable
    else
      return .done
  match token with
  | .blanks s =>
      addText s
      return .done
  | .comment s =>
      addComment s
      return .done
  | .startTag t =>
      if t.name = "html" then addRootAttrs t
      else if t.name = "col" then
        addVoid t
        return .done
      else if t.name = "template" then startInHead t
      else leave
  | .endTag t =>
      if t.name = "colgroup" then
        if ← currentIs ["colgroup"] then
          pop
          setMode .inTable
        return .done
      else if t.name = "col" then return .done
      else if t.name = "template" then closeTemplate
      else leave
  | .eof => inBody .eof
  | _ => leave

/-- The rules in a group of rows. -/
def inTableBody (token : Token) : Build Outcome := do
  let leave : Build Outcome := do
    if ← inTableScope rowGroupNames then
      clearToRowGroup
      pop
      againIn .inTable
    else
      return .done
  match token with
  | .startTag t =>
      if t.name = "tr" then
        clearToRowGroup
        openTag t
        setMode .inRow
        return .done
      else if t.name = "td" || t.name = "th" then
        clearToRowGroup
        openNamed "tr"
        againIn .inRow
      else if tablePartNames.contains t.name then leave
      else inTable token
  | .endTag t =>
      if rowGroupNames.contains t.name then
        if ← inTableScope [t.name] then
          clearToRowGroup
          pop
          setMode .inTable
        return .done
      else if t.name = "table" then leave
      else if ["body", "html"].contains t.name || tablePartNames.contains t.name then
        return .done
      else
        inTable token
  | _ => inTable token

/-- The rules in a row. -/
def inRow (token : Token) : Build Outcome := do
  let leave : Build Outcome := do
    if ← inTableScope ["tr"] then
      clearToRow
      pop
      againIn .inTableBody
    else
      return .done
  match token with
  | .startTag t =>
      if t.name = "td" || t.name = "th" then
        clearToRow
        openTag t
        setMode .inCell
        addMark
        return .done
      else if tablePartNames.contains t.name then leave
      else inTable token
  | .endTag t =>
      if t.name = "tr" then
        if ← inTableScope ["tr"] then
          clearToRow
          pop
          setMode .inTableBody
        return .done
      else if t.name = "table" then leave
      else if rowGroupNames.contains t.name then
        if ← inTableScope [t.name] then leave else return .done
      else if ["body", "html"].contains t.name || tablePartNames.contains t.name then
        return .done
      else
        inTable token
  | _ => inTable token

/-- The end of the open cell. -/
def closeCell : Build Unit := do
  closeImplied ""
  popThroughNamed ["td", "th"]
  clearToMark

/-- The rules in a cell. -/
def inCell (token : Token) : Build Outcome := do
  match token with
  | .startTag t =>
      if tablePartNames.contains t.name then
        if ← inTableScope ["td", "th"] then
          closeCell
          againIn .inRow
        else
          return .done
      else
        inBody token
  | .endTag t =>
      if t.name = "td" || t.name = "th" then
        if ← inTableScope [t.name] then
          closeImplied ""
          popThroughNamed [t.name]
          clearToMark
          setMode .inRow
        return .done
      else if ["body", "html", "caption", "col", "colgroup"].contains t.name then return .done
      else if t.name = "table" || t.name = "tr" || rowGroupNames.contains t.name then
        if ← inTableScope [t.name] then
          closeCell
          againIn .inRow
        else
          return .done
      else
        inBody token
  | _ => inBody token

end PageModel.Html.Rules
