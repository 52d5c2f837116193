import PageModel.Html.Construction.Names
import PageModel.Html.Token

/-!
# Names of foreign content

The names of the graphical and the mathematical vocabulary have capital letters that HTML text
does not keep, and some of their attributes have scopes. The maps here restore both.
-/

namespace PageModel.Html

/-- The elements of the graphical vocabulary whose names have capital letters. -/
def svgElementNames : List String :=
  ["altGlyph", "altGlyphDef", "altGlyphItem", "animateColor", "animateMotion",
   "animateTransform", "clipPath", "feBlend", "feColorMatrix", "feComponentTransfer",
   "feComposite", "feConvolveMatrix", "feDiffuseLighting", "feDisplacementMap",
   "feDistantLight", "feDropShadow", "feFlood", "feFuncA", "feFuncB", "feFuncG", "feFuncR",
   "feGaussianBlur", "feImage", "feMerge", "feMergeNode", "feMorphology", "feOffset",
   "fePointLight", "feSpecularLighting", "feSpotLight", "feTile", "feTurbulence",
   "foreignObject", "glyphRef", "linearGradient", "radialGradient", "textPath"]

/-- The attributes of the graphical vocabulary whose names have capital letters. -/
def svgAttrNames : List String :=
  ["attributeName", "attributeType", "baseFrequency", "baseProfile", "calcMode",
   "clipPathUnits", "diffuseConstant", "edgeMode", "filterUnits", "glyphRef",
   "gradientTransform", "gradientUnits", "kernelMatrix", "kernelUnitLength", "keyPoints",
   "keySplines", "keyTimes", "lengthAdjust", "limitingConeAngle", "markerHeight",
   "markerUnits", "markerWidth", "maskContentUnits", "maskUnits", "numOctaves", "pathLength",
   "patternContentUnits", "patternTransform", "patternUnits", "pointsAtX", "pointsAtY",
   "pointsAtZ", "preserveAlpha", "preserveAspectRatio", "primitiveUnits", "refX", "refY",
   "repeatCount", "repeatDur", "requiredExtensions", "requiredFeatures", "specularConstant",
   "specularExponent", "spreadMethod", "startOffset", "stdDeviation", "stitchTiles",
   "surfaceScale", "systemLanguage", "tableValues", "targetX", "targetY", "textLength",
   "viewBox", "viewTarget", "xChannelSelector", "yChannelSelector", "zoomAndPan"]

/-- The name of a list that is the given one up to the case of ASCII letters, or the given one. -/
def restoreCase (names : List String) (name : String) : String :=
  (names.find? fun n => n.toList.map asciiLower == name.toList).getD name

/-- The attributes with scopes: the name in the text, the scope, and the name in it. -/
def scopedAttrs : List (String × AttrScope × String) :=
  [("xlink:actuate", .xlink, "actuate"), ("xlink:arcrole", .xlink, "arcrole"),
   ("xlink:href", .xlink, "href"), ("xlink:role", .xlink, "role"),
   ("xlink:show", .xlink, "show"), ("xlink:title", .xlink, "title"),
   ("xlink:type", .xlink, "type"), ("xml:lang", .xml, "lang"), ("xml:space", .xml, "space"),
   ("xmlns", .scopeDeclaration, "xmlns"), ("xmlns:xlink", .xmlns, "xlink")]

/-- The name of an element of a vocabulary, from its name in the text. -/
def foreignElementName (v : Vocabulary) (name : String) : String :=
  if v = .svg then restoreCase svgElementNames name else name

/-- An attribute of a foreign element, from its name and value in the text. -/
def foreignAttr (v : Vocabulary) (attr : String × String) : Attr :=
  let name :=
    match v with
    | .svg => restoreCase svgAttrNames attr.1
    | .mathml => if attr.1 = "definitionurl" then "definitionURL" else attr.1
    | .html => attr.1
  match scopedAttrs.find? (·.1 == name) with
  | some (_, scope, scopedName) => ⟨scope, scopedName, attr.2⟩
  | none => ⟨.plain, name, attr.2⟩

/-- The attributes of an element, from the tag. -/
def Tag.attrsIn (t : Tag) (v : Vocabulary) : List Attr :=
  match v with
  | .html => t.attrs.map fun a => ⟨.plain, a.1, a.2⟩
  | _ => t.attrs.map (foreignAttr v)

end PageModel.Html
