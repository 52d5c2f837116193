import PageModel.Html.Rules.Table

/-!
# Rules for templates, framesets and the end of a document

The content of a template is read by the rules of whatever its first tag belongs to. After the
end tags of the body and of the document only white space and comments have a place of their
own.
-/

namespace PageModel.Html.Rules

open Build

/-- The mode for the rest of a template, and the token handled again in it. -/
def templateAgainIn (m : Mode) : Build Outcome := do
  change fun b => { b with templateModes := m :: b.templateModes.drop 1 }
  againIn m

/-- The rules at the start of a template. -/
def inTemplate (token : Token) : Build Outcome := do
  match token with
  | .startTag t =>
      if headNames.contains t.name then startInHead t
      else if ["caption", "colgroup"].contains t.name || rowGroupNames.contains t.name then
        templateAgainIn .inTable
      else if t.name = "col" then templateAgainIn .inColumnGroup
      else if t.name = "tr" then templateAgainIn .inTableBody
      else if t.name = "td" || t.name = "th" then templateAgainIn .inRow
      else templateAgainIn .inBody
  | .endTag t => if t.name = "template" then closeTemplate else return .done
  | .eof => endInTemplate
  | _ => inBody token

/-- The rules after the body. -/
def afterBody (token : Token) : Build Outcome := do
  match token with
  | .blanks _ => inBody token
  | .comment s =>
      match (← state).stack.getLast? with
      | some root => addCommentIn root s
      | none => pure ()
      return .done
  | .startTag t => if t.name = "html" then addRootAttrs t else againIn .inBody
  | .endTag t =>
      if t.name = "html" then
        setMode .afterAfterBody
        return .done
      else
        againIn .inBody
  | .eof => return .done
  | _ => againIn .inBody

/-- The rules after the document. -/
def afterAfterBody (token : Token) : Build Outcome := do
  match token with
  | .blanks _ => inBody token
  | .comment s =>
      addCommentIn 0 s
      return .done
  | .startTag t => if t.name = "html" then addRootAttrs t else againIn .inBody
  | .eof => return .done
  | _ => againIn .inBody

/-- The rules in a frameset. -/
def inFrameset (token : Token) : Build Outcome := do
  match token with
  | .blanks s =>
      addText s
      return .done
  | .comment s =>
      addComment s
      return .done
  | .startTag t =>
      if t.name = "html" then addRootAttrs t
      else if t.name = "frameset" then
        openTag t
        return .done
      else if t.name = "frame" then
        addVoid t
        return .done
      else if t.name = "noframes" then startInHead t
      else return .done
  | .endTag t =>
      if t.name = "frameset" then
        if 1 < (← state).stack.length then
          pop
          if !(← currentIs ["frameset"]) then setMode .afterFrameset
      return .done
  | _ => return .done

/-- The rules after a frameset. -/
def afterFrameset (token : Token) : Build Outcome := do
  match token with
  | .blanks s =>
      addText s
      return .done
  | .comment s =>
      addComment s
      return .done
  | .startTag t =>
      if t.name = "html" then addRootAttrs t
      else if t.name = "noframes" then startInHead t
      else return .done
  | .endTag t =>
      if t.name = "html" then setMode .afterAfterFrameset
      return .done
  | _ => return .done

/-- The rules after a document that holds a frameset. -/
def afterAfterFrameset (token : Token) : Build Outcome := do
  match token with
  | .blanks _ => inBody token
  | .comment s =>
      addCommentIn 0 s
      return .done
  | .startTag t =>
      if t.name = "html" then addRootAttrs t
      else if t.name = "noframes" then startInHead t
      else return .done
  | _ => return .done

/-- The rules of a mode. -/
def inMode : Mode → Token → Build Outcome
  | .initial => initial
  | .beforeHtml => beforeHtml
  | .beforeHead => beforeHead
  | .inHead => inHead
  | .afterHead => afterHead
  | .inBody => inBody
  | .text => text
  | .inTable => inTable
  | .inTableText => inTableText
  | .inCaption => inCaption
  | .inColumnGroup => inColumnGroup
  | .inTableBody => inTableBody
  | .inRow => inRow
  | .inCell => inCell
  | .inTemplate => inTemplate
  | .afterBody => afterBody
  | .inFrameset => inFrameset
  | .afterFrameset => afterFrameset
  | .afterAfterBody => afterAfterBody
  | .afterAfterFrameset => afterAfterFrameset

end PageModel.Html.Rules
