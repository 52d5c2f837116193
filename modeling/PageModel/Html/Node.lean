/-!
# Documents as trees

A document is a tree of nodes. Every node has a number, which tells when it was made: a node
that was made later has a greater number, wherever it stands in the tree. The elements below a
node are listed in the order of the document, each before the nodes that it holds.
-/

namespace PageModel.Html

/-- The vocabularies that elements belong to. -/
inductive Vocabulary where
  | html
  | svg
  | mathml
deriving Repr, DecidableEq, Inhabited

/-- The scopes of attribute names, in the order in which attributes are kept: names of the
vocabulary of the element, the declaration of a default scope, and the prefixed names. -/
inductive AttrScope where
  | plain
  | scopeDeclaration
  | xlink
  | xml
  | xmlns
deriving Repr, DecidableEq

/-- An attribute. -/
structure Attr where
  scope : AttrScope
  name : String
  value : String
deriving Repr, DecidableEq

/-- What a node is. The content of a `template` element hangs below a fragment. -/
inductive Content where
  | document
  | fragment
  | doctype (name : String)
  | text (text : String)
  | comment (text : String)
  | element (vocabulary : Vocabulary) (name : String) (attrs : List Attr)
deriving Repr, DecidableEq, Inhabited

/-- A node with what stands below it. -/
structure Node where
  id : Nat
  content : Content
  children : List Node
deriving Repr, Inhabited

/-! ### Attributes in order -/

/-- The place of a scope in the order of attributes. -/
def AttrScope.rank : AttrScope → Nat
  | .plain => 0
  | .scopeDeclaration => 1
  | .xlink => 2
  | .xml => 3
  | .xmlns => 4

/-- Whether an attribute comes before another: by scope, then by name. -/
def Attr.before (a b : Attr) : Bool :=
  a.scope.rank < b.scope.rank || (a.scope.rank == b.scope.rank && a.name < b.name)

/-- Whether two attributes have one name in one scope. -/
def Attr.sameName (a b : Attr) : Bool :=
  a.scope = b.scope && a.name == b.name

/-- Attributes in order with one more, in its place, unless its name is taken. -/
def insertAttr (a : Attr) : List Attr → List Attr
  | [] => [a]
  | b :: bs =>
      if a.sameName b then b :: bs
      else if a.before b then a :: b :: bs
      else b :: insertAttr a bs

/-- Attributes put in order. -/
def sortAttrs (attrs : List Attr) : List Attr :=
  attrs.foldl (fun sorted a => insertAttr a sorted) []

/-! ### Elements -/

namespace Content

/-- Whether a node is an element. -/
def isElement : Content → Bool
  | .element _ _ _ => true
  | _ => false

/-- The name of an element. -/
def name? : Content → Option String
  | .element _ name _ => some name
  | _ => none

/-- The attributes of an element. -/
def attrs : Content → List Attr
  | .element _ _ attrs => attrs
  | _ => []

/-- The value of the attribute with the given name that belongs to the element's own
vocabulary. -/
def attr? (c : Content) (name : String) : Option String :=
  (c.attrs.find? fun a => a.scope = .plain && a.name == name).map (·.value)

/-- The text of a text node. -/
def text? : Content → Option String
  | .text s => some s
  | _ => none

end Content

namespace Node

/-- Whether a node is an element. -/
def isElement (n : Node) : Bool :=
  n.content.isElement

/-- The name of an element, empty for another node. -/
def name (n : Node) : String :=
  n.content.name?.getD ""

/-- The value of an attribute. -/
def attr? (n : Node) (name : String) : Option String :=
  n.content.attr? name

/-- The elements among the children of a node. -/
def childElements (n : Node) : List Node :=
  n.children.filter isElement

end Node

/-! ### What stands below a node -/

mutual

/-- A node and all nodes below it, in the order of the document. -/
def Node.preorder : Node → List Node
  | ⟨id, content, children⟩ => ⟨id, content, children⟩ :: forestPreorder children

/-- The nodes of a list of trees, in the order of the document. -/
def forestPreorder : List Node → List Node
  | [] => []
  | n :: ns => n.preorder ++ forestPreorder ns

end

namespace Node

/-- The element itself, if it is one, and the elements below it. -/
def elementsOrSelf (n : Node) : List Node :=
  n.preorder.filter isElement

/-- The text of a node: the texts in it and below it, joined. -/
def text (n : Node) : String :=
  String.join (n.preorder.filterMap (·.content.text?))

/-- The text that stands directly in a node. -/
def ownText (n : Node) : String :=
  String.join (n.children.filterMap (·.content.text?))

end Node

/-- The element that a document consists of, if it has one. -/
def Node.rootElement? (document : Node) : Option Node :=
  document.childElements.head?

end PageModel.Html
