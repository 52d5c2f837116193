import PageModel.Html.Document
import PageModel.Html.Markup
import PageModel.Unicode.Blank
import PageModel.XPath.Path

/-!
# Elements that a path reaches

A step takes the elements that were reached to those children, or those elements below, that
pass its test and its predicates. A predicate about a place counts among the siblings that pass
the test and the predicates before it. The elements that are reached come once each, in the order
in which their nodes were made.
-/

namespace PageModel.XPath

open Html

/-! ### Elements in their places -/

/-- An element with the elements that its parent holds, itself among them. -/
structure Located where
  siblings : List Node
  node : Node
deriving Inhabited

/-- The elements among the children of a node, in their places. -/
def locatedChildren (n : Node) : List Located :=
  n.childElements.map fun e => ⟨n.childElements, e⟩

mutual

/-- The elements below a node, in their places and in the order of the document. -/
def locatedBelow : Node → List Located
  | ⟨_, _, children⟩ => locatedForest (children.filter Node.isElement) children

/-- The elements in a list of trees, those at the top being the children of one parent, whose
elements are `siblings`. -/
def locatedForest (siblings : List Node) : List Node → List Located
  | [] => []
  | n :: ns =>
      (if n.isElement then [⟨siblings, n⟩] else []) ++ locatedBelow n ++ locatedForest siblings ns

end

/-! ### Tests and predicates -/

/-- Whether an element has a name that a test asks for, up to the case of ASCII letters. -/
def NodeTest.holds (t : NodeTest) (n : Node) : Bool :=
  match t with
  | .any => true
  | .tag name => sameIgnoringAsciiCase n.name.toList name.toList

/-- Whether a text holds another. -/
def textContains (s : List Char) (part : List Char) : Bool :=
  match s with
  | [] => part.isEmpty
  | c :: cs => part.isPrefixOf (c :: cs) || textContains cs part

/-- Whether the value of an attribute, if it is there, is what a test asks for. -/
def AttrTest.holds (t : AttrTest) (value : Option String) : Bool :=
  match t with
  | .present => value.isSome
  | .equals v => value == some v
  | .differs v => value != some v
  | .contains v => value.any fun s => textContains s.toList v.toList
  | .startsWith v => value.any fun s => v.toList.isPrefixOf s.toList

/-- The elements of a list that a predicate leaves. -/
def Predicate.narrow (group : List Node) : Predicate → List Node
  | .position n => group[n - 1]?.toList
  | .last => group.getLast?.toList
  | .attr name test => group.filter fun n => test.holds (n.attr? name)

/-- Whether a predicate that is not about a place holds of an element. -/
def Predicate.holds (n : Node) : Predicate → Bool
  | .position _ => true
  | .last => true
  | .attr name test => test.holds (n.attr? name)

/-- Whether a step takes an element. Without predicates about a place it is enough to look at
the element; otherwise its siblings are narrowed down predicate by predicate. -/
def Step.accepts (s : Step) (e : Located) : Bool :=
  s.test.holds e.node &&
    if s.predicates.any Predicate.isPositional then
      (s.predicates.foldl Predicate.narrow (e.siblings.filter s.test.holds)).any
        fun n => n.id == e.node.id
    else
      s.predicates.all (Predicate.holds e.node)

/-! ### Steps -/

/-- A list of elements, ordered by number, without repetitions. -/
def withoutRepetition : List Located → List Located
  | [] => []
  | [e] => [e]
  | e :: f :: es =>
      if e.node.id = f.node.id then withoutRepetition (f :: es)
      else e :: withoutRepetition (f :: es)

/-- Elements in the order in which their nodes were made, once each. -/
def inOrder (es : List Located) : List Located :=
  withoutRepetition (es.mergeSort fun e f => e.node.id ≤ f.node.id)

/-- The elements that a step looks at from a list of elements. -/
def Step.candidates (s : Step) (from_ : List Located) : List Located :=
  match s.axis with
  | .child => from_.flatMap fun e => locatedChildren e.node
  | .descendant => from_.flatMap fun e => locatedBelow e.node

/-- The elements that the first step of a path looks at: the root element, and what is below it
unless the step asks for children only. -/
def Step.firstCandidates (s : Step) (root : Located) : List Located :=
  match s.axis with
  | .child => [root]
  | .descendant => root :: locatedBelow root.node

/-- The elements that a step takes from its candidates. -/
def Step.take (s : Step) (candidates : List Located) : List Located :=
  inOrder (candidates.filter s.accepts)

/-- The elements that a list of steps reaches from a list of elements. -/
def reachFrom (es : List Located) : List Step → List Located
  | [] => es
  | s :: ss => reachFrom (s.take (s.candidates es)) ss

/-- The elements that a list of steps reaches in a document with the given root. -/
def reach (root : Located) : List Step → List Located
  | [] => [root]
  | s :: ss => reachFrom (s.take (s.firstCandidates root)) ss

/-- The root element of a document in its place. -/
def locatedRoot? (document : Node) : Option Located :=
  document.rootElement?.map fun root => ⟨document.childElements, root⟩

/-- The elements that a path reaches in a document. -/
def Path.evaluate (p : Path) (document : Node) : List Node :=
  match locatedRoot? document with
  | none => []
  | some root => (reach root p.steps).map (·.node)

/-! ### Output -/

/-- A text, unless it is empty. -/
def nonEmpty (s : String) : List String :=
  if s.isEmpty then [] else [s]

/-- A text with its words one space apart. -/
def tidied (s : String) : String :=
  String.ofList (Unicode.tidy s.toList)

/-- What a path writes of an element. -/
def Path.render (p : Path) (n : Node) : List String :=
  match p.output with
  | .outerMarkup => [n.outerMarkup]
  | .innerMarkup => [n.innerMarkup]
  | .ownText =>
      nonEmpty (Unicode.trimText (if p.outputAxis = .descendant then n.text else n.ownText))
  | .allText => nonEmpty (Unicode.trimText n.text)
  | .tidyText => nonEmpty (tidied n.text)
  | .attr name =>
      (if p.outputAxis = .descendant then n.elementsOrSelf else [n]).filterMap (·.attr? name)

/-- What a path selects in a document: what it writes of the elements that it reaches. -/
def Path.selectAllIn (p : Path) (document : Node) : List String :=
  (p.evaluate document).flatMap p.render

/-- What a path writes of elements one after the other, following what is written already, until
there are as many texts as a limit says. An element that writes several texts may exceed it. -/
def Path.writeUpTo (p : Path) (limit : Nat) (written : List String) : List Node → List String
  | [] => written
  | n :: ns =>
      if limit ≤ (written ++ p.render n).length then written ++ p.render n
      else p.writeUpTo limit (written ++ p.render n) ns

/-- The first thing that a path selects in a document. No element after the one that writes it is
looked at. -/
def Path.selectIn (p : Path) (document : Node) : Option String :=
  (p.writeUpTo 1 [] (p.evaluate document)).head?

/-- What a path selects in an HTML text. -/
def Path.selectAll (p : Path) (text : String) : List String :=
  p.selectAllIn (parse text)

/-- The first thing that a path selects in an HTML text. -/
def Path.select (p : Path) (text : String) : Option String :=
  p.selectIn (parse text)

end PageModel.XPath
