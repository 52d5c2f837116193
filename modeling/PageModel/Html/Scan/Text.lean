import PageModel.Html.Reference
import PageModel.Html.Token

/-!
# Runs of text

How far a run of text goes. Between markup it ends at the next bracket that opens markup; in an
element whose content is text it ends at the end tag of that element, where a script may hold
the text of other scripts in comments.
-/

namespace PageModel.Html

/-- Whether a bracket opens markup, judged by what follows it. -/
def opensMarkup : List Char → Bool
  | '/' :: _ :: _ => true
  | c :: _ => c.isAlpha || c = '!' || c = '?'
  | [] => false

/-- Whether a text starts with a name, up to the case of ASCII letters, and then a character
that ends the name of a tag. -/
def startsWithTagName (name : List Char) (cs : List Char) : Bool :=
  sameIgnoringAsciiCase (cs.take name.length) name
    && (cs.drop name.length).head?.any (fun c => isSpace c || c = '/' || c = '>')

/-- Whether a text is the end tag of an element, from the slash on. -/
def startsEndTag (name : List Char) : List Char → Bool
  | '/' :: cs => startsWithTagName name cs
  | _ => false

/-- A run of text and what follows it. -/
abbrev TextRun := List Char × List Char

/-- The text up to markup; `acc` is what is read, in reverse. -/
def scanDataText (acc : List Char) : List Char → TextRun
  | [] => (acc.reverse, [])
  | c :: cs =>
      if c = '<' && opensMarkup cs then (acc.reverse, c :: cs)
      else scanDataText (c :: acc) cs

/-- The text up to the end tag of an element. -/
def scanElementText (name : List Char) (acc : List Char) : List Char → TextRun
  | [] => (acc.reverse, [])
  | c :: cs =>
      if c = '<' && startsEndTag name cs then (acc.reverse, c :: cs)
      else scanElementText name (c :: acc) cs

/-- How deep the text of a script stands in comments: outside, in a comment, or in a script in a
comment; and how many dashes it has just passed, two standing for more. -/
structure ScriptDepth where
  depth : Nat
  dashes : Nat

/-- The depth after a character that opens no tag. -/
def ScriptDepth.after (d : ScriptDepth) (c : Char) : ScriptDepth :=
  if d.depth = 0 then d
  else if c = '-' then { d with dashes := min 2 (d.dashes + 1) }
  else if c = '>' && d.dashes == 2 then ⟨0, 0⟩
  else { d with dashes := 0 }

/-- The name of the element whose text may hold the text of others of its kind. -/
def scriptName : List Char := "script".toList

/-- The text of a script. -/
def scanScriptText (d : ScriptDepth) (acc : List Char) : List Char → TextRun
  | [] => (acc.reverse, [])
  | '<' :: '!' :: '-' :: '-' :: cs =>
      if d.depth = 0 then scanScriptText ⟨1, 2⟩ ('-' :: '-' :: '!' :: '<' :: acc) cs
      else scanScriptText { d with dashes := 2 } ('-' :: '-' :: '!' :: '<' :: acc) cs
  | c :: cs =>
      if c = '<' then
        if d.depth ≤ 1 && startsEndTag scriptName cs then (acc.reverse, c :: cs)
        else if d.depth = 1 && startsWithTagName scriptName cs then
          scanScriptText ⟨2, 0⟩ (c :: acc) cs
        else if d.depth = 2 && startsEndTag scriptName cs then
          scanScriptText ⟨1, 0⟩ (c :: acc) cs
        else scanScriptText { d with dashes := 0 } (c :: acc) cs
      else
        scanScriptText (d.after c) (c :: acc) cs

/-- Text in which a null character is shown as the replacement character. -/
def withoutNulls (cs : List Char) : List Char :=
  cs.map fun c => if c = '\x00' then '\uFFFD' else c

end PageModel.Html
