import PageModel.Html.Rules.After

/-!
# Rules for foreign content

Inside the graphical and the mathematical vocabulary tags open elements of that vocabulary,
until a tag that only HTML has, or an element that holds HTML.
-/

namespace PageModel.Html.Rules

open Build

/-- Whether an element of the mathematical vocabulary holds HTML by its declared encoding. -/
def declaresHtml (c : Content) : Bool :=
  match c.attr? "encoding" with
  | some e => ["text/html", "application/xhtml+xml"].contains (asciiLowerText e)
  | none => false

/-- Whether an element holds HTML though it is foreign. -/
def holdsHtml (c : Content) : Bool :=
  match c.elementName with
  | (.svg, name) => svgHtmlNames.contains name
  | (.mathml, "annotation-xml") => declaresHtml c
  | _ => false

/-- Whether an element is of the mathematical vocabulary and holds text. -/
def holdsMathText (c : Content) : Bool :=
  match c.elementName with
  | (.mathml, name) => mathTextNames.contains name
  | _ => false

/-- Whether a token is text. -/
def isTextToken : Token → Bool
  | .blanks _ => true
  | .chars _ => true
  | .null => true
  | _ => false

/-- Whether the rules for foreign content apply to a token in an element. -/
def isForeign (c : Content) (token : Token) : Bool :=
  let startName? : Option String := match token with | .startTag t => some t.name | _ => none
  match c.elementName with
  | (.html, _) => false
  | n =>
      if token = .eof then false
      else if holdsMathText c && (isTextToken token
          || startName?.any fun name => name != "mglyph" && name != "malignmark") then false
      else if holdsHtml c && (isTextToken token || startName?.isSome) then false
      else if n = (.mathml, "annotation-xml") && startName? = some "svg" then false
      else true

/-- Whether an element may hold what breaks out of foreign content. -/
def takesBreakout (c : Content) : Bool :=
  c.elementName.1 = .html || holdsHtml c || holdsMathText c

/-- The elements closed that cannot hold what breaks out of foreign content, and the token
handled by the rules of the mode. -/
def breakOut (token : Token) : Build Outcome := do
  change fun b => { b with stack := b.stack.dropWhile fun i => !takesBreakout (b.arena.content i) }
  inMode (← state).mode token

/-- What an end tag does in foreign content: it closes an element of its name, or leaves foreign
content, whichever comes first. -/
inductive ForeignEnd where
  | nothing
  | close (count : Nat)
  | leave

/-- The effect of an end tag, the open elements given innermost first, `count` of them passed. -/
def foreignEnd (arena : Arena) (name : String) (count : Nat) : List Nat → ForeignEnd
  | [] => .nothing
  | [_] => .nothing
  | i :: below =>
      let n := (arena.content i).elementName
      if 0 < count && n.1 = .html then .leave
      else if asciiLowerText n.2 = name then .close (count + 1)
      else foreignEnd arena name (count + 1) below

/-- The rules for foreign content. -/
def inForeign (token : Token) : Build Outcome := do
  match token with
  | .null =>
      addText "\uFFFD"
      return .done
  | .blanks s =>
      addText s
      return .done
  | .chars s =>
      addText s
      refuseFrameset
      return .done
  | .comment s =>
      addComment s
      return .done
  | .startTag t =>
      let colored := t.name == "font" && t.attrs.any fun a => ["color", "face", "size"].contains a.1
      if breakoutNames.contains t.name || colored then breakOut token
      else
        let v := (← nameOf (← current)).1
        let i ← addElement v (foreignElementName v t.name) (t.attrsIn v)
        if !t.selfClosing then push i
        return .done
  | .endTag t =>
      if t.name = "br" || t.name = "p" then breakOut token
      else
        let b ← state
        match foreignEnd b.arena t.name 0 b.stack with
        | .nothing => return .done
        | .close count =>
            change fun b => { b with stack := b.stack.drop count }
            return .done
        | .leave => inMode b.mode token
  | _ => return .done

/-- The rules that apply to a token. -/
def apply (token : Token) : Build Outcome := do
  let b ← state
  match b.stack with
  | [] => inMode b.mode token
  | i :: _ => if isForeign (b.arena.content i) token then inForeign token else inMode b.mode token

/-- A token handled, again and again in the modes that the rules set, at most `rounds` times. -/
def applyRounds (token : Token) : (rounds : Nat) → Build Unit
  | 0 => pure ()
  | rounds + 1 => do
      match ← apply token with
      | .done => pure ()
      | .again => applyRounds token rounds

/-- A token handled. Every round but a few closes an element or leaves a template. -/
def handle (token : Token) : Build Unit := do
  let b ← state
  applyRounds token (4 * (b.stack.length + b.templateModes.length) + 32)

end PageModel.Html.Rules
