import PageModel.Html.Node

/-!
# Kinds of elements

The groups of element names that the rules for reading a document refer to.
-/

namespace PageModel.Html

/-- The name of an element with its vocabulary. -/
abbrev ElementName := Vocabulary × String

/-- The name of an element; a node that is none has a name that no rule mentions. -/
def Content.elementName : Content → ElementName
  | .element v name _ => (v, name)
  | _ => (.html, "")

/-- Whether a name is one of the given names of the HTML vocabulary. -/
def ElementName.isHtml (n : ElementName) (names : List String) : Bool :=
  n.1 = .html && names.contains n.2

/-- The elements of the mathematical vocabulary that hold text. -/
def mathTextNames : List String :=
  ["mi", "mo", "mn", "ms", "mtext"]

/-- The elements of the graphical vocabulary that hold HTML. -/
def svgHtmlNames : List String :=
  ["foreignObject", "desc", "title"]

/-- The names of foreign elements that bound a scope and are special. -/
def ElementName.isForeignBoundary : ElementName → Bool
  | (.mathml, name) => mathTextNames.contains name || name == "annotation-xml"
  | (.svg, name) => svgHtmlNames.contains name
  | (.html, _) => false

/-- The special elements: those that an end tag of another name does not reach across. -/
def specialNames : List String :=
  ["address", "applet", "area", "article", "aside", "base", "basefont", "bgsound", "blockquote",
   "body", "br", "button", "caption", "center", "col", "colgroup", "dd", "details", "dir", "div",
   "dl", "dt", "embed", "fieldset", "figcaption", "figure", "footer", "form", "frame", "frameset",
   "h1", "h2", "h3", "h4", "h5", "h6", "head", "header", "hgroup", "hr", "html", "iframe", "img",
   "input", "keygen", "li", "link", "listing", "main", "marquee", "menu", "meta", "nav",
   "noembed", "noframes", "noscript", "object", "ol", "p", "param", "plaintext", "pre", "script",
   "search", "section", "select", "source", "style", "summary", "table", "tbody", "td",
   "template", "textarea", "tfoot", "th", "thead", "title", "tr", "track", "ul", "wbr", "xmp"]

/-- Whether an element is special. -/
def ElementName.isSpecial (n : ElementName) : Bool :=
  n.isHtml specialNames || n.isForeignBoundary

/-- The elements that bound every scope but that of tables. -/
def ElementName.boundsScope (n : ElementName) : Bool :=
  n.isHtml ["applet", "caption", "html", "table", "td", "th", "marquee", "object", "select",
      "template"]
    || n.isForeignBoundary

/-- The elements that bound the scope of list items. -/
def ElementName.boundsListScope (n : ElementName) : Bool :=
  n.boundsScope || n.isHtml ["ol", "ul"]

/-- The elements that bound the scope of buttons. -/
def ElementName.boundsButtonScope (n : ElementName) : Bool :=
  n.boundsScope || n.isHtml ["button"]

/-- The elements that bound the scope of tables. -/
def ElementName.boundsTableScope (n : ElementName) : Bool :=
  n.isHtml ["html", "table", "template"]

/-- The elements whose end tags are implied. -/
def impliedEndNames : List String :=
  ["dd", "dt", "li", "optgroup", "option", "p", "rb", "rp", "rt", "rtc"]

/-- The elements whose end tags are implied at the end of a template. -/
def impliedTemplateEndNames : List String :=
  impliedEndNames ++ ["caption", "colgroup", "tbody", "td", "tfoot", "th", "thead", "tr"]

/-- The headings. -/
def headingNames : List String :=
  ["h1", "h2", "h3", "h4", "h5", "h6"]

/-- The elements that belong to the head of a document wherever they stand. -/
def headNames : List String :=
  ["base", "basefont", "bgsound", "link", "meta", "noframes", "script", "style", "template",
   "title"]

/-- The elements that close a paragraph and are otherwise plain. -/
def blockNames : List String :=
  ["address", "article", "aside", "blockquote", "center", "details", "dialog", "dir", "div", "dl",
   "fieldset", "figcaption", "figure", "footer", "header", "hgroup", "main", "menu", "nav", "ol",
   "p", "search", "section", "summary", "ul"]

/-- The elements whose end tags close all that was opened in them. -/
def blockEndNames : List String :=
  ["address", "article", "aside", "blockquote", "button", "center", "details", "dialog", "dir",
   "div", "dl", "fieldset", "figcaption", "figure", "footer", "header", "hgroup", "listing",
   "main", "menu", "nav", "ol", "pre", "search", "section", "select", "summary", "ul"]

/-- The elements that format text and are opened again in a new block. -/
def formattingNames : List String :=
  ["a", "b", "big", "code", "em", "font", "i", "nobr", "s", "small", "strike", "strong", "tt",
   "u"]

/-- The parts of a table that hold rows. -/
def rowGroupNames : List String :=
  ["tbody", "tfoot", "thead"]

/-- The parts of a table. -/
def tablePartNames : List String :=
  ["caption", "col", "colgroup", "tbody", "td", "tfoot", "th", "thead", "tr"]

/-- The start tags that end foreign content. -/
def breakoutNames : List String :=
  ["b", "big", "blockquote", "body", "br", "center", "code", "dd", "div", "dl", "dt", "em",
   "embed", "h1", "h2", "h3", "h4", "h5", "h6", "head", "hr", "i", "img", "li", "listing",
   "menu", "meta", "nobr", "ol", "p", "pre", "ruby", "s", "small", "span", "strong", "strike",
   "sub", "sup", "table", "tt", "u", "ul", "var"]

end PageModel.Html
