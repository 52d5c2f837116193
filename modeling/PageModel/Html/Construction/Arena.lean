import PageModel.Html.Construction.Cells

/-!
# Nodes under construction

The table of nodes that is built while a document is read. Whatever is done to it keeps its links
fitting together, and the element that the document consists of in its place once it is there
(`Rooted`). When the text ends, the table becomes the tree of the document.
-/

namespace PageModel.Html

/-- A table of nodes the links of which fit together. -/
structure Arena where
  cells : Cells
  linked : cells.Linked

namespace Arena

/-- The links of the document node alone. -/
theorem linked_empty :
  Cells.Linked #[⟨.document, none, #[]⟩]
  := by
  have hchildren : ∀ p, Cells.children #[⟨.document, none, #[]⟩] p = #[] := by
    intro p
    cases p <;> rfl
  refine ⟨?_, ?_, rfl, Nat.one_pos⟩
  · intro p i hi
    rw [hchildren] at hi
    exact absurd hi (Array.not_mem_empty i)
  · intro p
    rw [hchildren]
    exact List.nodup_nil

/-- The table that holds the document node alone. -/
def empty : Arena :=
  ⟨#[⟨.document, none, #[]⟩], linked_empty⟩

instance : Inhabited Arena :=
  ⟨empty⟩

/-- How many nodes were made. -/
def size (t : Arena) : Nat :=
  t.cells.size

/-- The content of a node. -/
def content (t : Arena) (i : Nat) : Content :=
  t.cells.content i

/-- The parent of a node. -/
def parent? (t : Arena) (i : Nat) : Option Nat :=
  t.cells.parent? i

/-- The children of a node. -/
def children (t : Arena) (i : Nat) : Array Nat :=
  t.cells.children i

/-- The place of a node among the children of its parent. -/
def place? (t : Arena) (i : Nat) : Option (Nat × Nat) :=
  t.cells.place? i

/-- The table with a new node that has no parent, and the number of the node. -/
def make (t : Arena) (c : Content) : Arena × Nat :=
  (⟨t.cells.make c, t.linked.make c⟩, t.cells.size)

/-- The table with another content of a node. -/
def mapContent (t : Arena) (i : Nat) (f : Content → Content) : Arena :=
  ⟨t.cells.mapContent i f, t.linked.mapContent i f⟩

/-- The table with a node taken out of its parent, if it may be moved. -/
def detach (t : Arena) (i : Nat) : Arena :=
  ⟨t.cells.detach i, t.linked.detach i⟩

/-- The table with a node moved to the end of a parent's children, if it may be moved. -/
def append (t : Arena) (p i : Nat) : Arena :=
  ⟨t.cells.append p i, t.linked.append p i⟩

/-- The table with a node moved to the place before a sibling, if it may be moved. -/
def insertBefore (t : Arena) (sibling i : Nat) : Arena :=
  ⟨t.cells.insertBefore sibling i, t.linked.insertBefore sibling i⟩

/-- The table with text added to a text node. -/
def extendText (t : Arena) (i : Nat) (s : String) : Arena :=
  t.mapContent i fun content =>
    match content with
    | .text old => .text (old ++ s)
    | _ => content

/-- Whether a node is a text node. -/
def isText (t : Arena) (i : Nat) : Bool :=
  (t.content i).text?.isSome

/-- The table with text at the end of a parent's children, in the text node there if one is. -/
def appendText (t : Arena) (p : Nat) (s : String) : Arena :=
  match (t.children p).back? with
  | some last =>
      if t.isText last then t.extendText last s
      else
        let (t, i) := t.make (.text s)
        t.append p i
  | none =>
      let (t, i) := t.make (.text s)
      t.append p i

/-- The table with text before a sibling, in the text node there if one is. -/
def insertTextBefore (t : Arena) (sibling : Nat) (s : String) : Arena :=
  match t.place? sibling with
  | none => t
  | some (p, k) =>
      let previous := if k = 0 then none else (t.children p)[k - 1]?
      match previous with
      | some i =>
          if t.isText i then t.extendText i s
          else
            let (t, i) := t.make (.text s)
            t.insertBefore sibling i
      | none =>
          let (t, i) := t.make (.text s)
          t.insertBefore sibling i

/-- The table with the children of a node moved to the end of another's. -/
def moveChildren (t : Arena) (source target : Nat) : Arena :=
  (t.children source).foldl (fun t i => t.append target i) t

/-- The table with attributes added to an element, those apart whose names it has. -/
def addAttrs (t : Arena) (i : Nat) (attrs : List Attr) : Arena :=
  t.mapContent i fun content =>
    match content with
    | .element v name old => .element v name (attrs.foldl (fun l a => insertAttr a l) old)
    | _ => content

/-! ### The element that a document consists of -/

/-- Tables in which the document holds an element. -/
def Rooted (t : Arena) : Prop :=
  t.cells.Rooted

theorem Rooted.make {t : Arena} (h : t.Rooted) (c : Content) :
  (t.make c).1.Rooted
  := Cells.Rooted.make h t.linked c

theorem Rooted.mapContent {t : Arena} (h : t.Rooted) (i : Nat) {f : Content → Content}
    (hf : ∀ c : Content, c.isElement = true → (f c).isElement = true) :
  (t.mapContent i f).Rooted
  := Cells.Rooted.mapContent h t.linked i hf

theorem Rooted.detach {t : Arena} (h : t.Rooted) (i : Nat) :
  (t.detach i).Rooted
  := Cells.Rooted.detach h t.linked i

theorem Rooted.append {t : Arena} (h : t.Rooted) (p i : Nat) :
  (t.append p i).Rooted
  := Cells.Rooted.append h t.linked p i

theorem Rooted.insertBefore {t : Arena} (h : t.Rooted) (sibling i : Nat) :
  (t.insertBefore sibling i).Rooted
  := Cells.Rooted.insertBefore h t.linked sibling i

theorem Rooted.extendText {t : Arena} (h : t.Rooted) (i : Nat) (s : String) :
  (t.extendText i s).Rooted
  := by
  apply h.mapContent
  intro c hc
  cases c <;> exact hc

theorem Rooted.addAttrs {t : Arena} (h : t.Rooted) (i : Nat) (attrs : List Attr) :
  (t.addAttrs i attrs).Rooted
  := by
  apply h.mapContent
  intro c hc
  cases c <;> exact hc

theorem Rooted.appendText {t : Arena} (h : t.Rooted) (p : Nat) (s : String) :
  (t.appendText p s).Rooted
  := by
  unfold Arena.appendText
  split
  · split
    · exact h.extendText _ s
    · exact (h.make _).append p _
  · exact (h.make _).append p _

theorem Rooted.insertTextBefore {t : Arena} (h : t.Rooted) (sibling : Nat) (s : String) :
  (t.insertTextBefore sibling s).Rooted
  := by
  unfold Arena.insertTextBefore
  split
  · exact h
  · simp only
    split
    · split
      · exact h.extendText _ s
      · exact (h.make _).insertBefore sibling _
    · exact (h.make _).insertBefore sibling _

theorem Rooted.moveChildren {t : Arena} (h : t.Rooted) (source target : Nat) :
  (t.moveChildren source target).Rooted
  := by
  unfold Arena.moveChildren
  exact Array.foldl_induction (fun _ u => Rooted u) h fun _ _ hu => Rooted.append hu target _

/-- A table is rooted once a new element has been put into the document. -/
theorem rooted_append_make (t : Arena) {c : Content} (hc : c.isElement = true) :
  ((t.make c).1.append 0 (t.make c).2).Rooted
  := by
  apply Cells.rooted_append (t.make c).1.linked (Cells.movable_make t.linked c)
  rwa [make, Cells.content_make_self]

/-! ### Trees -/

/-- The content of a template: its first child. -/
def templateContent (t : Arena) (i : Nat) : Nat :=
  ((t.children i)[0]?).getD i

/-- The tree of a node, to the depth `depth`. -/
def toNode (t : Arena) : (depth : Nat) → Nat → Node
  | 0, i => ⟨i, t.content i, []⟩
  | depth + 1, i => ⟨i, t.content i, (t.children i).toList.map (t.toNode depth)⟩

/-- The tree of the document. No node stands deeper than there are nodes. -/
def document (t : Arena) : Node :=
  t.toNode t.size 0

/-- The nodes, the document apart, that stand nowhere: they have been taken out of the document. -/
def loose (t : Arena) : List Nat :=
  (List.range t.size).filter fun i => i != 0 && (t.parent? i).isNone

/-- The trees of the nodes that have been taken out of the document. -/
def looseTrees (t : Arena) : List Node :=
  t.loose.map (t.toNode t.size)

end Arena

end PageModel.Html
