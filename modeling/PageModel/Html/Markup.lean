import PageModel.Html.Node

/-!
# Markup of a tree

The text of a tree: elements between their tags, text with the characters escaped that markup
uses. An element that holds nothing by its nature has no end tag, and the text of scripts and
their like is written as it is.
-/

namespace PageModel.Html

/-- The elements that hold nothing and have no end tag. -/
def voidElements : List String :=
  ["area", "base", "basefont", "bgsound", "br", "col", "embed", "frame", "hr", "img", "input",
   "keygen", "link", "meta", "param", "source", "track", "wbr"]

/-- The elements whose text is written as it is. -/
def rawTextElements : List String :=
  ["style", "script", "xmp", "iframe", "noembed", "noframes", "plaintext"]

/-- How a character is written in text, and in a quoted value. -/
def escapeChar (inAttribute : Bool) (c : Char) : List Char :=
  if c = '&' then "&amp;".toList
  else if c = '\u00A0' then "&nbsp;".toList
  else if c = '<' then "&lt;".toList
  else if c = '>' then "&gt;".toList
  else if c = '"' ∧ inAttribute then "&quot;".toList
  else [c]

/-- A text with its characters escaped. -/
def escape (inAttribute : Bool) (s : String) : String :=
  String.ofList (s.toList.flatMap (escapeChar inAttribute))

/-- The name of an attribute with the mark of its scope. -/
def Attr.qualifiedName (a : Attr) : String :=
  match a.scope with
  | .plain => a.name
  | .scopeDeclaration => a.name
  | .xlink => "xlink:" ++ a.name
  | .xml => "xml:" ++ a.name
  | .xmlns => "xmlns:" ++ a.name

/-- An attribute in a start tag. -/
def Attr.markup (a : Attr) : String :=
  " " ++ a.qualifiedName ++ "=\"" ++ escape true a.value ++ "\""

/-- A start tag. -/
def startTagMarkup (name : String) (attrs : List Attr) : String :=
  "<" ++ name ++ String.join (attrs.map Attr.markup) ++ ">"

/-- Whether the text in a node is written as it is. -/
def Content.holdsRawText : Content → Bool
  | .element .html name _ => rawTextElements.contains name
  | _ => false

/-- Whether a node is an element without content and end tag. -/
def Content.isVoid : Content → Bool
  | .element .html name _ => voidElements.contains name
  | _ => false

mutual

/-- The markup of a node, written after `acc`; `raw` says that text is written as it is. -/
def Node.markupOnto (acc : String) (raw : Bool) : Node → String
  | ⟨_, content, children⟩ =>
      match content with
      | .document => forestMarkupOnto acc false children
      | .fragment => forestMarkupOnto acc raw children
      | .doctype name => acc ++ "<!DOCTYPE " ++ name ++ ">"
      | .text text => acc ++ if raw then text else escape false text
      | .comment text => acc ++ "<!--" ++ text ++ "-->"
      | .element vocabulary name attrs =>
          let opened := acc ++ startTagMarkup name attrs
          if (Content.element vocabulary name attrs).isVoid then opened
          else
            forestMarkupOnto opened (Content.element vocabulary name attrs).holdsRawText children
              ++ "</" ++ name ++ ">"

/-- The markup of a list of trees, written after `acc`. -/
def forestMarkupOnto (acc : String) (raw : Bool) : List Node → String
  | [] => acc
  | n :: ns => forestMarkupOnto (n.markupOnto acc raw) raw ns

end

/-- The markup of a node with what is in it. -/
def Node.outerMarkup (n : Node) : String :=
  n.markupOnto "" false

/-- The markup of what is in a node. -/
def Node.innerMarkup (n : Node) : String :=
  forestMarkupOnto "" false n.children

end PageModel.Html
