import PageModel.Html.Rules.Foreign
import PageModel.Html.Scan

/-!
# Reading a document

`parse` reads an HTML text as a document. Every text is one: markup that is missing is supplied
and markup that fits nowhere is dropped or moved.
-/

namespace PageModel.Html

open Build Rules

/-- A token without the line feed that may not come first in the element just opened; a token
that is nothing else is dropped. -/
def withoutFirstLineFeed (token : Token) : Option Token :=
  match token with
  | .blanks s =>
      if s.toList.head? = some '\n' then
        let rest := s.toList.drop 1
        if rest.isEmpty then none else some (.blanks (String.ofList rest))
      else
        some token
  | _ => some token

/-- A token handled, when it is not a document type in the wrong place. -/
def take (token : Token) : Build Unit := do
  let b ← state
  change fun b => { b with skipLineFeed := false }
  match token with
  | .doctype _ => if b.mode = .initial then handle token
  | _ =>
      match if b.skipLineFeed then withoutFirstLineFeed token else some token with
      | some token => handle token
      | none => pure ()

/-- Tokens handled one after the other. -/
def takeAll : List Token → Build Unit
  | [] => pure ()
  | t :: ts => do
      take t
      takeAll ts

/-- How the text that comes next is to be read. -/
def Builder.scanContext (b : Builder) : ScanContext where
  mode := if b.mode = .text || b.textMode = .plain then b.textMode else .data
  element := b.textElement
  inForeign :=
    match b.stack with
    | [] => false
    | i :: _ => (b.arena.content i).elementName.1 != .html

/-- The state after a text has been read to its end. -/
def build (b : Builder) (cs : List Char) : Builder :=
  match cs with
  | [] => ((take .eof).run b).2
  | c :: cs =>
      let read := scan b.scanContext (c :: cs)
      build ((takeAll read.1).run b).2 read.2
termination_by cs.length
decreasing_by exact scan_length_lt b.scanContext c cs

/-- The table of the nodes that were made while an HTML text was read. -/
def arenaOf (text : String) : Arena :=
  (build .initial (normalizeLineEnds text.toList)).arena

/-- The document that an HTML text is. -/
def parse (text : String) : Node :=
  (arenaOf text).document

/-- The document that an HTML text is, with the trees that were taken out of it on the way. -/
def parseWithLoose (text : String) : Node × List Node :=
  let arena := arenaOf text
  (arena.document, arena.looseTrees)

end PageModel.Html
