import PageModel.Html.Construction.Arena
import PageModel.Html.Construction.Foreign

/-!
# The state of reading a document

What is known between two tokens: the nodes made so far, the elements that are open, innermost
first, the formatting elements that are to be opened again in a new block, and the mode, which
tells what rules apply. The operations here are the steps that the rules are made of.
-/

namespace PageModel.Html

/-- The modes: the parts of a document that have rules of their own. -/
inductive Mode where
  | initial
  | beforeHtml
  | beforeHead
  | inHead
  | afterHead
  | inBody
  | text
  | inTable
  | inTableText
  | inCaption
  | inColumnGroup
  | inTableBody
  | inRow
  | inCell
  | inTemplate
  | afterBody
  | inFrameset
  | afterFrameset
  | afterAfterBody
  | afterAfterFrameset
deriving Repr, DecidableEq

/-- An entry of the list of formatting elements: an element with its tag, or a mark that bounds
the elements of a cell or the like. -/
inductive FormatEntry where
  | mark
  | element (id : Nat) (tag : Tag)

/-- Whether an entry is that of an element. -/
def FormatEntry.isFor (i : Nat) : FormatEntry → Bool
  | .mark => false
  | .element j _ => i == j

/-- The state of reading a document. -/
structure Builder where
  arena : Arena
  stack : List Nat
  formatting : List FormatEntry
  mode : Mode
  returnMode : Mode
  templateModes : List Mode
  head : Option Nat
  form : Option Nat
  framesetOk : Bool
  isOld : Bool
  fostering : Bool
  tableText : List Token
  skipLineFeed : Bool
  textMode : TextMode
  textElement : String

/-- The state before the first token. -/
def Builder.initial : Builder where
  arena := Arena.empty
  stack := []
  formatting := []
  mode := .initial
  returnMode := .initial
  templateModes := []
  head := none
  form := none
  framesetOk := true
  isOld := false
  fostering := false
  tableText := []
  skipLineFeed := false
  textMode := .data
  textElement := ""

/-- A step of reading a document. It leaves the element that the document consists of in its place
once that is there. -/
structure Build (α : Type) where
  run : Builder → α × Builder
  rooted : ∀ b : Builder, b.arena.Rooted → (run b).2.arena.Rooted

/-- What a rule does with a token: it is done with it, or the token is to be handled again in
the mode that the rule has set. -/
inductive Outcome where
  | done
  | again
deriving DecidableEq

namespace Build

/-! ### Steps -/

instance : Monad Build where
  pure a := ⟨fun b => (a, b), fun _ h => h⟩
  bind x f :=
    ⟨fun b => (f (x.run b).1).run (x.run b).2,
      fun b h => (f (x.run b).1).rooted (x.run b).2 (x.rooted b h)⟩

/-- The state as it is. -/
def state : Build Builder :=
  ⟨fun b => (b, b), fun _ h => h⟩

/-- A change of the state apart from the table of nodes. -/
def change (f : Builder → Builder) (h : ∀ b, (f b).arena = b.arena := by intro b; rfl) :
    Build Unit :=
  ⟨fun b => ((), f b), fun b hb => (h b).symm ▸ hb⟩

@[simp] theorem run_bind {α β : Type} (x : Build α) (f : α → Build β) (b : Builder) :
  (x >>= f).run b = (f (x.run b).1).run (x.run b).2
  := rfl

@[simp] theorem run_state (b : Builder) :
  state.run b = (b, b)
  := rfl

@[simp] theorem run_change (f : Builder → Builder) (h : ∀ b, (f b).arena = b.arena)
    (b : Builder) :
  (change f h).run b = ((), f b)
  := rfl

/-! ### The table of nodes -/

/-- A change of the table of nodes. -/
def onArena (f : Arena → Arena) (h : ∀ t : Arena, t.Rooted → (f t).Rooted) : Build Unit :=
  ⟨fun b => ((), { b with arena := f b.arena }), fun b hb => h b.arena hb⟩

/-- A new node. -/
def make (c : Content) : Build Nat :=
  ⟨fun b =>
      let (arena, i) := b.arena.make c
      (i, { b with arena := arena }),
    fun _ hb => hb.make c⟩

/-- The name of an element. -/
def nameOf (i : Nat) : Build ElementName :=
  return ((← state).arena.content i).elementName

/-- Whether a node is an HTML element with one of the given names. -/
def isHtml (i : Nat) (names : List String) : Build Bool :=
  return (← nameOf i).isHtml names

/-! ### The open elements -/

/-- The innermost open element. -/
def current : Build Nat :=
  return (← state).stack.headD 0

/-- Whether the innermost open element has one of the given names. -/
def currentIs (names : List String) : Build Bool := do
  isHtml (← current) names

/-- An element opened. -/
def push (i : Nat) : Build Unit :=
  change fun b => { b with stack := i :: b.stack }

/-- The innermost element closed. -/
def pop : Build Unit :=
  change fun b => { b with stack := b.stack.drop 1 }

/-- The open elements left after closing those at the front for which `p` holds. -/
def popWhile (p : ElementName → Bool) : Build Unit :=
  change fun b => { b with stack := b.stack.dropWhile fun i => p (b.arena.content i).elementName }

/-- Elements closed up to the innermost for which `p` holds, that one included. -/
def popThrough (p : ElementName → Bool) : Build Unit := do
  popWhile fun n => !p n
  pop

/-- Elements closed up to the innermost with one of the given names, that one included. -/
def popThroughNamed (names : List String) : Build Unit :=
  popThrough fun n => n.isHtml names

/-- Elements closed up to the innermost with one of the given names, that one kept open. -/
def popToNamed (names : List String) : Build Unit :=
  popWhile fun n => !n.isHtml names

/-- Whether an element for which `p` holds is open with no element between that bounds the
scope. -/
def inScopeWhere (bounds : ElementName → Bool) (p : Nat → ElementName → Bool) : Build Bool := do
  let b ← state
  let named := b.stack.map fun i => (i, (b.arena.content i).elementName)
  match named.find? fun (i, n) => p i n || bounds n with
  | some (i, n) => return p i n
  | none => return false

/-- Whether an element with one of the given names is in scope. -/
def inScope (names : List String) : Build Bool :=
  inScopeWhere ElementName.boundsScope fun _ n => n.isHtml names

/-- Whether an element with one of the given names is in the scope of buttons. -/
def inButtonScope (names : List String) : Build Bool :=
  inScopeWhere ElementName.boundsButtonScope fun _ n => n.isHtml names

/-- Whether an element with one of the given names is in the scope of tables. -/
def inTableScope (names : List String) : Build Bool :=
  inScopeWhere ElementName.boundsTableScope fun _ n => n.isHtml names

/-- Whether an element with one of the given names is open. -/
def isOpen (names : List String) : Build Bool := do
  let b ← state
  return b.stack.any fun i => (b.arena.content i).elementName.isHtml names

/-- The implied end tags, but for one name. -/
def closeImplied (except : String) : Build Unit :=
  popWhile fun n => n.isHtml impliedEndNames && n.2 != except

/-- The implied end tags, at the end of a template. -/
def closeImpliedThoroughly : Build Unit :=
  popWhile fun n => n.isHtml impliedTemplateEndNames

/-- The end of the open paragraph. -/
def closeParagraph : Build Unit := do
  closeImplied "p"
  popThroughNamed ["p"]

/-- The end of the open paragraph, if one is in the scope of buttons. -/
def closeParagraphInScope : Build Unit := do
  if ← inButtonScope ["p"] then closeParagraph

/-- An element taken out of the open ones, wherever it stands. -/
def removeFromStack (i : Nat) : Build Unit :=
  change fun b => { b with stack := b.stack.filter (· != i) }

/-! ### Places for new nodes -/

/-- A place for a new node: the end of a parent, or before a table, where a table without a
parent gives way to the end of the element that it was opened in. -/
inductive Place where
  | lastIn (parent : Nat)
  | besideTable (table previous : Nat)

/-- Where content goes that a table cannot hold: before the innermost table, unless a template
was opened in it. -/
def fosterPlace (arena : Arena) : List Nat → Place
  | [] => .lastIn 0
  | [root] => .lastIn root
  | i :: previous :: below =>
      let n := (arena.content i).elementName
      if n.isHtml ["template"] then .lastIn (arena.templateContent i)
      else if n.isHtml ["table"] then .besideTable i previous
      else fosterPlace arena (previous :: below)

/-- The place for a new node in a target, by default the innermost open element. -/
def placeIn (target : Option Nat) : Build Place := do
  let b ← state
  let t := target.getD (b.stack.headD 0)
  let n := (b.arena.content t).elementName
  if b.fostering && n.isHtml ["table", "tbody", "tfoot", "thead", "tr"] then
    return fosterPlace b.arena b.stack
  else if n.isHtml ["template"] then
    return .lastIn (b.arena.templateContent t)
  else
    return .lastIn t

/-- The table with a node put in a place. -/
def Place.insert (place : Place) (i : Nat) (t : Arena) : Arena :=
  match place with
  | .lastIn p => t.append p i
  | .besideTable table previous =>
      if (t.parent? table).isSome then t.insertBefore table i else t.append previous i

theorem Place.rooted_insert (place : Place) (i : Nat) (t : Arena) (h : t.Rooted) :
  (place.insert i t).Rooted
  := by
  unfold insert
  split
  · exact h.append _ i
  · split
    · exact h.insertBefore _ i
    · exact h.append _ i

/-- The table with text put in a place. -/
def Place.insertText (place : Place) (s : String) (t : Arena) : Arena :=
  match place with
  | .lastIn p => t.appendText p s
  | .besideTable table previous =>
      if (t.parent? table).isSome then t.insertTextBefore table s else t.appendText previous s

theorem Place.rooted_insertText (place : Place) (s : String) (t : Arena) (h : t.Rooted) :
  (place.insertText s t).Rooted
  := by
  unfold insertText
  split
  · exact h.appendText _ s
  · split
    · exact h.insertTextBefore _ s
    · exact h.appendText _ s

/-- A node put in a place. -/
def insertAt (place : Place) (i : Nat) : Build Unit :=
  onArena (place.insert i) (place.rooted_insert i)

/-- Text put in a place. -/
def insertTextAt (place : Place) (s : String) : Build Unit :=
  onArena (place.insertText s) (place.rooted_insertText s)

/-- A node moved to the end of a parent's children. -/
def append (parent i : Nat) : Build Unit :=
  onArena (fun t => t.append parent i) fun _ h => h.append parent i

/-- A node taken out of its parent. -/
def detach (i : Nat) : Build Unit :=
  onArena (fun t => t.detach i) fun _ h => h.detach i

/-- The children of a node moved to the end of another's. -/
def moveChildren (source target : Nat) : Build Unit :=
  onArena (fun t => t.moveChildren source target) fun _ h => h.moveChildren source target

/-- Attributes added to an element. -/
def addAttrs (i : Nat) (attrs : List Attr) : Build Unit :=
  onArena (fun t => t.addAttrs i attrs) fun _ h => h.addAttrs i attrs

/-- Text added where the document is being read. -/
def addText (s : String) : Build Unit := do
  insertTextAt (← placeIn none) s

/-- A comment added where the document is being read. -/
def addComment (s : String) : Build Unit := do
  let i ← make (.comment s)
  insertAt (← placeIn none) i

/-- A comment added at the end of a node. -/
def addCommentIn (parent : Nat) (s : String) : Build Unit := do
  let i ← make (.comment s)
  append parent i

/-! ### Elements -/

/-- A new element that stands nowhere yet. A template gets its fragment with it. -/
def makeElement (v : Vocabulary) (name : String) (attrs : List Attr) : Build Nat := do
  let i ← make (.element v name (sortAttrs attrs))
  if v = .html ∧ name = "template" then
    let f ← make .fragment
    append i f
  return i

/-- A new element where the document is being read, not opened. -/
def addElement (v : Vocabulary) (name : String) (attrs : List Attr) : Build Nat := do
  let i ← makeElement v name attrs
  insertAt (← placeIn none) i
  return i

/-- The element of a tag, added and opened. -/
def openTag (t : Tag) : Build Unit := do
  push (← addElement .html t.name (t.attrsIn .html))

/-- The element of a tag, added but not opened. -/
def addVoid (t : Tag) : Build Unit := do
  let _ ← addElement .html t.name (t.attrsIn .html)

/-- A tag without attributes. -/
def bareTag (name : String) : Tag :=
  ⟨name, [], false⟩

/-- An element without attributes, added and opened. -/
def openNamed (name : String) : Build Unit :=
  openTag (bareTag name)

/-- The way that text is read changed to that of an element's content. -/
def readTextAs (mode : TextMode) (element : String) : Build Unit :=
  change fun b => { b with textMode := mode, textElement := element }

/-- The element of a tag opened, its content being text. -/
def openTextElement (t : Tag) (mode : TextMode) : Build Unit := do
  openTag t
  change fun b => { b with returnMode := b.mode, mode := .text }
  readTextAs mode t.name

/-! ### Formatting elements -/

/-- The entries since the last mark. -/
def sinceMark (entries : List FormatEntry) : List (Nat × Tag) :=
  (entries.takeWhile fun | .mark => false | .element _ _ => true).filterMap fun
    | .mark => none
    | .element i t => some (i, t)

/-- A mark put in front of the formatting elements. -/
def addMark : Build Unit :=
  change fun b => { b with formatting := .mark :: b.formatting }

/-- The formatting elements dropped up to the last mark. -/
def clearToMark : Build Unit :=
  change fun b =>
    let kept := b.formatting.dropWhile fun
      | .mark => false
      | .element _ _ => true
    { b with formatting := kept.drop 1 }

/-- An element taken out of the formatting elements. -/
def removeFormatting (i : Nat) : Build Unit :=
  change fun b => { b with formatting := b.formatting.filter (!FormatEntry.isFor i ·) }

/-- Whether two tags have one name and the same attributes, in any order. -/
def sameTag (s t : Tag) : Bool :=
  s.name == t.name && s.attrs.length == t.attrs.length && s.attrs.all t.attrs.contains

/-- The element of a tag opened as a formatting element. Of more than three that are alike since
the last mark, the oldest is dropped. -/
def openFormatting (t : Tag) : Build Unit := do
  let alike := (sinceMark (← state).formatting).filter fun e => sameTag e.2 t
  if 3 ≤ alike.length then
    match alike.getLast? with
    | some (i, _) => removeFormatting i
    | none => pure ()
  let i ← addElement .html t.name (t.attrsIn .html)
  push i
  change fun b => { b with formatting := .element i t :: b.formatting }

/-- Whether an entry needs no reopening: a mark, or an element that is open. -/
def isSettled (stack : List Nat) : FormatEntry → Bool
  | .mark => true
  | .element i _ => stack.contains i

/-- The entries of `todo`, oldest first, opened again as new elements in front of `settled`. -/
def reopenAll : (todo : List FormatEntry) → Build Unit
  | [] => pure ()
  | .mark :: rest => reopenAll rest
  | .element _ t :: rest => do
      let i ← addElement .html t.name (t.attrsIn .html)
      push i
      change fun b => { b with formatting := .element i t :: b.formatting }
      reopenAll rest

/-- The formatting elements that are no longer open, opened again. -/
def reopenFormatting : Build Unit := do
  let b ← state
  let todo := b.formatting.takeWhile (!isSettled b.stack ·)
  if !todo.isEmpty then
    change fun b => { b with formatting := b.formatting.drop todo.length }
    reopenAll todo.reverse

/-! ### Modes -/

/-- The mode for the rest of the token's handling and after. -/
def setMode (m : Mode) : Build Unit :=
  change fun b => { b with mode := m }

/-- A token to be handled again in another mode. -/
def againIn (m : Mode) : Build Outcome := do
  setMode m
  return .again

/-- No frameset may follow. -/
def refuseFrameset : Build Unit :=
  change fun b => { b with framesetOk := false }

/-- The next line feed is dropped if it comes first. -/
def dropNextLineFeed : Build Unit :=
  change fun b => { b with skipLineFeed := true }

/-- The mode that suits the open elements, innermost first. -/
def modeFor (b : Builder) : List Nat → Mode
  | [] => .inBody
  | i :: below =>
      match (b.arena.content i).elementName with
      | (.html, name) =>
          if (name == "td" || name == "th") && !below.isEmpty then .inCell
          else if name == "tr" then .inRow
          else if rowGroupNames.contains name then .inTableBody
          else if name == "caption" then .inCaption
          else if name == "colgroup" then .inColumnGroup
          else if name == "table" then .inTable
          else if name == "template" then b.templateModes.headD .inBody
          else if name == "head" && !below.isEmpty then .inHead
          else if name == "body" then .inBody
          else if name == "frameset" then .inFrameset
          else if name == "html" then (if b.head.isNone then .beforeHead else .afterHead)
          else modeFor b below
      | _ => modeFor b below

/-- The mode set to suit the open elements. -/
def resetMode : Build Unit :=
  change fun b => { b with mode := modeFor b b.stack }

end Build

end PageModel.Html
