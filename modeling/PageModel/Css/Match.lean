import PageModel.Css.Parse
import PageModel.Html.Document
import PageModel.Html.Markup

/-!
# Elements that a selector selects

An element is looked at in its place: with its siblings before and after it and the elements
that it stands in. A selector is matched from its last compound backwards.
-/

namespace PageModel.Css

open Html

/-- An element in its place: the siblings before it, nearest first, those after it, and the
element that it stands in. An element of a document or of a template's content stands in none. -/
inductive Spot where
  | mk (node : Node) (before after : List Node) (isRoot : Bool) (parent : Option Spot)

namespace Spot

/-- The element. -/
def node : Spot → Node
  | .mk node _ _ _ _ => node

/-- The siblings before the element, nearest first. -/
def before : Spot → List Node
  | .mk _ before _ _ _ => before

/-- The siblings after the element. -/
def after : Spot → List Node
  | .mk _ _ after _ _ => after

/-- Whether the element is that of the document. -/
def isRoot : Spot → Bool
  | .mk _ _ _ isRoot _ => isRoot

/-- The element that the element stands in. -/
def parent : Spot → Option Spot
  | .mk _ _ _ _ parent => parent

/-- The elements that the element stands in, innermost first. -/
def ancestors : Spot → List Spot
  | .mk _ _ _ _ none => []
  | .mk _ _ _ _ (some p) => p :: p.ancestors

/-- The siblings before an element in their places, nearest first; `after` are those that follow
the first of `before`. -/
def places (isRoot : Bool) (parent : Option Spot) : (before after : List Node) → List Spot
  | [], _ => []
  | n :: ns, after => .mk n ns after isRoot parent :: places isRoot parent ns (n :: after)

/-- The siblings before the element in their places, nearest first. -/
def previous (s : Spot) : List Spot :=
  places s.isRoot s.parent s.before (s.node :: s.after)

/-- The siblings after an element in their places, in order; `before` are those that come before
the first of `after`, nearest first. -/
def placesAfter (isRoot : Bool) (parent : Option Spot) : (before after : List Node) → List Spot
  | _, [] => []
  | before, n :: ns =>
      .mk n before ns isRoot parent :: placesAfter isRoot parent (n :: before) ns

/-- The siblings after the element in their places, in order. -/
def following (s : Spot) : List Spot :=
  placesAfter s.isRoot s.parent (s.node :: s.before) s.after

/-- The elements that a combinator leads to. -/
def targets (s : Spot) : Combinator → List Spot
  | .descendant => s.ancestors
  | .child => s.parent.toList
  | .nextSibling => s.previous.take 1
  | .laterSibling => s.previous

end Spot

mutual

/-- The elements below a node in their places, in the order of the document; `here` is the place
of the node, if it is an element. -/
def spotsBelow (here : Option Spot) : Node → List Spot
  | ⟨_, content, children⟩ => spotsForest here (content = .document) [] children

/-- The elements of a list of trees; `before` are the elements before it under the same parent,
nearest first. -/
def spotsForest (parent : Option Spot) (isRoot : Bool) (before : List Node) :
    List Node → List Spot
  | [] => []
  | ⟨id, content, children⟩ :: ns =>
      if content.isElement then
        let spot := Spot.mk ⟨id, content, children⟩ before (ns.filter Node.isElement) isRoot parent
        spot :: spotsForest (some spot) false [] children
          ++ spotsForest parent isRoot (⟨id, content, children⟩ :: before) ns
      else
        spotsForest none false [] children ++ spotsForest parent isRoot before ns

end

/-! ### Conditions -/

/-- Whether an element belongs to the HTML vocabulary. -/
def isHtml (n : Node) : Bool :=
  match n.content with
  | .element .html _ _ => true
  | _ => false

/-- The form of a name that is compared with names of an element: in lower case for HTML. -/
def nameFor (n : Node) (name : String) : String :=
  if isHtml n then lowerName name else name

/-- Whether a text ends in another. -/
def endsWith (s part : List Char) : Bool :=
  part.reverse.isPrefixOf s.reverse

/-- Whether a text holds another. -/
def holdsPart (s part : List Char) : Bool :=
  match s with
  | [] => part.isEmpty
  | c :: cs => part.isPrefixOf (c :: cs) || holdsPart cs part

/-- The words of a value: its runs of characters that are not white space. -/
def valueWords (s : List Char) : List (List Char) :=
  (s.splitBy fun a b => isSpace a == isSpace b).filter fun run => !run.any isSpace

/-- Whether a value passes a comparison. -/
def AttrMatch.holds (t : AttrMatch) (s : List Char) (fold : List Char → List Char) : Bool :=
  match t with
  | .present => true
  | .equals v => fold s == fold v.toList
  | .word v =>
      !v.isEmpty && !v.toList.any isSpace && (valueWords (fold s)).contains (fold v.toList)
  | .dash v =>
      let (s, v) := (fold s, fold v.toList)
      s == v || (v ++ ['-']).isPrefixOf s
  | .start v => !v.isEmpty && (fold v.toList).isPrefixOf (fold s)
  | .ending v => !v.isEmpty && endsWith (fold s) (fold v.toList)
  | .part v => !v.isEmpty && holdsPart (fold s) (fold v.toList)

/-- The change that a rule for the case of letters makes before a comparison. -/
def CaseRule.fold (r : CaseRule) (n : Node) : List Char → List Char :=
  match r with
  | .exact => id
  | .ignored => List.map asciiLower
  | .ignoredInHtml => if isHtml n then List.map asciiLower else id

/-- Whether two elements have one name in one vocabulary. -/
def sameType (a b : Node) : Bool :=
  match a.content, b.content with
  | .element v name _, .element w name' _ => v = w && name == name'
  | _, _ => false

/-- The number of an element among the siblings that are counted. -/
def Spot.index (s : Spot) (kind : NthKind) : Nat :=
  let others := if kind.fromEnd then s.after else s.before
  (others.filter fun n => !kind.ofType || sameType s.node n).length + 1

/-- Whether a number is `step * n + offset` for some `n` from zero on. -/
def isCounted (step offset : Int) (index : Nat) : Bool :=
  let d := (index : Int) - offset
  if step = 0 then d == 0 else Int.emod d step == 0 && 0 ≤ Int.tdiv d step

/-- The classes of an element. -/
def classesOf (n : Node) : List (List Char) :=
  match n.attr? "class" with
  | some value => valueWords value.toList
  | none => []

mutual

/-- Whether a condition holds of an element; `anchor` is the number of the element that a relative
selector starts from. -/
def Condition.holds (anchor : Option Nat) (s : Spot) : Condition → Bool
  | .tag name => s.node.name == nameFor s.node name
  | .noVocabulary => false
  | .id name => s.node.attr? "id" == some name
  | .className name => (classesOf s.node).contains name.toList
  | .attr anyScope name test rule =>
      s.node.content.attrs.any fun a =>
        (anyScope || a.scope = .plain) && a.name == nameFor s.node name
          && test.holds a.value.toList (rule.fold s.node)
  | .nth kind step offset => isCounted step offset (s.index kind)
  | .root => s.isRoot
  | .empty => !s.node.children.any fun c => c.isElement || c.content.text?.isSome
  | .anchor => anchor == some s.node.id
  | .any selectors => anyMatches anchor s selectors
  | .none selectors => !anyMatches anchor s selectors
  | .has selectors =>
      let reached := spotsBelow (some s) s.node
        ++ s.following.flatMap fun f => f :: spotsBelow (some f) f.node
      reached.any fun e => anyMatches (some s.node.id) e selectors

/-- Whether all conditions of a compound hold of an element. -/
def allHold (anchor : Option Nat) (s : Spot) : List Condition → Bool
  | [] => true
  | c :: cs => c.holds anchor s && allHold anchor s cs

/-- Whether an element is one that a selector selects. -/
def Selector.selects (anchor : Option Nat) (s : Spot) : Selector → Bool
  | .compound conditions => allHold anchor s conditions
  | .combined conditions combinator before =>
      allHold anchor s conditions
        && (s.targets combinator).any fun t => before.selects anchor t

/-- Whether an element is one that a selector of a list selects. -/
def anyMatches (anchor : Option Nat) (s : Spot) : List Selector → Bool
  | [] => false
  | sel :: sels => sel.selects anchor s || anyMatches anchor s sels

end

/-- The elements below a tree that was taken out of its document, in their places. -/
def spotsInLoose (n : Node) : List Spot :=
  spotsBelow (if n.isElement then some (.mk n [] [] false none) else none) n

/-- The elements of a document, and those below the trees that were taken out of it, in their
places, in the order in which their nodes were made. -/
def allSpots (document : Node) (loose : List Node) : List Spot :=
  (spotsBelow none document ++ loose.flatMap spotsInLoose).mergeSort
    fun s t => s.node.id ≤ t.node.id

/-- The elements that a list of selectors selects. -/
def selected (selectors : List Selector) (document : Node) (loose : List Node) : List Node :=
  ((allSpots document loose).filter fun s => anyMatches none s selectors).map (·.node)

/-- The markup of what a list of selectors selects in an HTML text. -/
def selectAll (selectors : List Selector) (text : String) : List String :=
  let (document, loose) := parseWithLoose text
  (selected selectors document loose).map (·.outerMarkup)

/-- The markup of the first element that a list of selectors selects in an HTML text. -/
def select (selectors : List Selector) (text : String) : Option String :=
  let (document, loose) := parseWithLoose text
  ((allSpots document loose).find? fun s => anyMatches none s selectors).map
    (·.node.outerMarkup)

end PageModel.Css
