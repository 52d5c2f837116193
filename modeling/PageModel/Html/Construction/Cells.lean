import PageModel.Html.Node

/-!
# Cells

While a document is read its nodes are cells of a table, each with its content, its parent and
its children by number. A node's number is its place in the table, so numbers tell the order in
which nodes were made, and moving a node does not change its number. The links of a table fit
together (`Linked`) when each child names its parent, no child is named twice, and the document
node, which comes first, has no parent. An element that the document consists of is never moved, so
that a table that is `Rooted` remains so.
-/

namespace PageModel.Html

/-- A node under construction. -/
structure Cell where
  content : Content
  parent : Option Nat
  children : Array Nat
deriving Inhabited

/-- A table of cells. -/
abbrev Cells := Array Cell

namespace Cells

/-! ### Reading a table -/

/-- The content of a node. -/
def content (t : Cells) (i : Nat) : Content :=
  (t[i]?.map (·.content)).getD .document

/-- The parent of a node. -/
def parent? (t : Cells) (i : Nat) : Option Nat :=
  t[i]?.bind (·.parent)

/-- The children of a node. -/
def children (t : Cells) (i : Nat) : Array Nat :=
  (t[i]?.map (·.children)).getD #[]

/-- The place of a node among the children of its parent. -/
def place? (t : Cells) (i : Nat) : Option (Nat × Nat) := do
  let p ← t.parent? i
  let k ← (t.children p).idxOf? i
  return (p, k)

/-! ### Changing a cell -/

/-- The table with a node that has neither parent nor children. -/
def make (t : Cells) (c : Content) : Cells :=
  t.push ⟨c, none, #[]⟩

/-- The table with another content of a node. -/
def mapContent (t : Cells) (i : Nat) (f : Content → Content) : Cells :=
  t.modify i fun cell => { cell with content := f cell.content }

/-- The table with other children of a node. -/
def mapChildren (t : Cells) (p : Nat) (f : Array Nat → Array Nat) : Cells :=
  t.modify p fun cell => { cell with children := f cell.children }

/-- The table with another parent of a node. -/
def setParent (t : Cells) (i : Nat) (p : Option Nat) : Cells :=
  t.modify i fun cell => { cell with parent := p }

@[simp] theorem size_mapContent (t : Cells) (i : Nat) (f : Content → Content) :
  (t.mapContent i f).size = t.size
  := Array.size_modify

@[simp] theorem size_mapChildren (t : Cells) (p : Nat) (f : Array Nat → Array Nat) :
  (t.mapChildren p f).size = t.size
  := Array.size_modify

@[simp] theorem size_setParent (t : Cells) (i : Nat) (p : Option Nat) :
  (t.setParent i p).size = t.size
  := Array.size_modify

@[simp] theorem parent?_make (t : Cells) (c : Content) (j : Nat) :
  (t.make c).parent? j = t.parent? j
  := by
  simp only [parent?, make, Array.getElem?_push]
  split
  · next hj =>
    rw [hj, Array.getElem?_eq_none (Nat.le_refl _)]
    rfl
  · rfl

@[simp] theorem children_make (t : Cells) (c : Content) (q : Nat) :
  (t.make c).children q = t.children q
  := by
  simp only [children, make, Array.getElem?_push]
  split
  · next hq =>
    rw [hq, Array.getElem?_eq_none (Nat.le_refl _)]
    rfl
  · rfl

@[simp] theorem size_make (t : Cells) (c : Content) :
  (t.make c).size = t.size + 1
  := Array.size_push _

theorem content_make (t : Cells) (c : Content) {i : Nat} (hi : i < t.size) :
  (t.make c).content i = t.content i
  := by
  simp only [content, make, Array.getElem?_push_lt hi, Array.getElem?_eq_getElem hi]

theorem content_make_self (t : Cells) (c : Content) :
  (t.make c).content t.size = c
  := by
  simp only [content, make, Array.getElem?_push_size, Option.map_some, Option.getD_some]

theorem content_mapContent (t : Cells) (i : Nat) (f : Content → Content) {j : Nat}
    (hj : j < t.size) :
  (t.mapContent i f).content j = if i = j then f (t.content j) else t.content j
  := by
  simp only [content, mapContent, Array.getElem?_modify, Array.getElem?_eq_getElem hj]
  split <;> rfl

@[simp] theorem content_mapChildren (t : Cells) (p : Nat) (f : Array Nat → Array Nat) (i : Nat) :
  (t.mapChildren p f).content i = t.content i
  := by
  simp only [content, mapChildren, Array.getElem?_modify]
  split
  · cases t[i]? <;> rfl
  · rfl

@[simp] theorem content_setParent (t : Cells) (i : Nat) (p : Option Nat) (j : Nat) :
  (t.setParent i p).content j = t.content j
  := by
  simp only [content, setParent, Array.getElem?_modify]
  split
  · cases t[j]? <;> rfl
  · rfl

@[simp] theorem parent?_mapContent (t : Cells) (i : Nat) (f : Content → Content) (j : Nat) :
  (t.mapContent i f).parent? j = t.parent? j
  := by
  simp only [parent?, mapContent, Array.getElem?_modify]
  split
  · cases t[j]? <;> rfl
  · rfl

@[simp] theorem children_mapContent (t : Cells) (i : Nat) (f : Content → Content) (q : Nat) :
  (t.mapContent i f).children q = t.children q
  := by
  simp only [children, mapContent, Array.getElem?_modify]
  split
  · cases t[q]? <;> rfl
  · rfl

@[simp] theorem parent?_mapChildren (t : Cells) (p : Nat) (f : Array Nat → Array Nat) (j : Nat) :
  (t.mapChildren p f).parent? j = t.parent? j
  := by
  simp only [parent?, mapChildren, Array.getElem?_modify]
  split
  · cases t[j]? <;> rfl
  · rfl

theorem children_mapChildren (t : Cells) (p : Nat) (f : Array Nat → Array Nat) (q : Nat) :
  (t.mapChildren p f).children q
    = if p = q ∧ q < t.size then f (t.children q) else t.children q
  := by
  simp only [children, mapChildren, Array.getElem?_modify]
  by_cases hq : q < t.size
  · by_cases hp : p = q
    · simp only [hp, hq, if_true, and_self, Array.getElem?_eq_getElem hq]
      rfl
    · simp only [hp, if_false, false_and]
  · have hnone : t[q]? = none := Array.getElem?_eq_none (Nat.le_of_not_lt hq)
    simp only [hq, and_false, if_false, hnone]
    split <;> rfl

theorem parent?_setParent (t : Cells) (i : Nat) (p : Option Nat) (j : Nat) :
  (t.setParent i p).parent? j = if i = j ∧ j < t.size then p else t.parent? j
  := by
  simp only [parent?, setParent, Array.getElem?_modify]
  by_cases hj : j < t.size
  · by_cases hi : i = j
    · simp only [hi, hj, if_true, and_self, Array.getElem?_eq_getElem hj]
      rfl
    · simp only [hi, if_false, false_and]
  · have hnone : t[j]? = none := Array.getElem?_eq_none (Nat.le_of_not_lt hj)
    simp only [hj, and_false, if_false, hnone]
    split <;> rfl

@[simp] theorem children_setParent (t : Cells) (i : Nat) (p : Option Nat) (q : Nat) :
  (t.setParent i p).children q = t.children q
  := by
  simp only [children, setParent, Array.getElem?_modify]
  split
  · cases t[q]? <;> rfl
  · rfl

/-! ### Links that fit together -/

/-- Links that fit together. -/
structure Linked (t : Cells) : Prop where
  parent_eq : ∀ {p i : Nat}, i ∈ t.children p → t.parent? i = some p
  nodup : ∀ p : Nat, (t.children p).toList.Nodup
  top : t.parent? 0 = none
  nonempty : 0 < t.size

theorem Linked.make {t : Cells} (h : Linked t) (c : Content) :
  Linked (t.make c)
  := by
  refine ⟨?_, ?_, ?_, ?_⟩
  · intro p i hi
    rw [children_make] at hi
    rw [parent?_make]
    exact h.parent_eq hi
  · intro p
    rw [children_make]
    exact h.nodup p
  · rw [parent?_make]
    exact h.top
  · rw [size_make]
    exact Nat.succ_pos _

theorem Linked.mapContent {t : Cells} (h : Linked t) (i : Nat) (f : Content → Content) :
  Linked (t.mapContent i f)
  := by
  refine ⟨?_, ?_, ?_, ?_⟩
  · intro p j hj
    rw [children_mapContent] at hj
    rw [parent?_mapContent]
    exact h.parent_eq hj
  · intro p
    rw [children_mapContent]
    exact h.nodup p
  · rw [parent?_mapContent]
    exact h.top
  · rw [size_mapContent]
    exact h.nonempty

/-- A node that has a child is in the table. -/
theorem lt_size_of_mem_children {t : Cells} {p i : Nat} (h : i ∈ t.children p) :
  p < t.size
  := by
  apply Nat.lt_of_not_le
  intro hle
  simp only [children, Array.getElem?_eq_none hle] at h
  exact Array.not_mem_empty i h

/-- A node that has a parent is in the table. -/
theorem lt_size_of_parent? {t : Cells} {i p : Nat} (h : t.parent? i = some p) :
  i < t.size
  := by
  apply Nat.lt_of_not_le
  intro hle
  simp only [parent?, Array.getElem?_eq_none hle] at h
  cases h

/-! ### Taking a node out of its parent -/

/-- The table with a node taken out of its parent. -/
def takeOut (t : Cells) (i : Nat) : Cells :=
  match t.parent? i with
  | none => t
  | some p => (t.mapChildren p fun children => children.filter (· != i)).setParent i none

@[simp] theorem size_takeOut (t : Cells) (i : Nat) :
  (t.takeOut i).size = t.size
  := by
  unfold takeOut
  split
  · rfl
  · rw [size_setParent, size_mapChildren]

@[simp] theorem content_takeOut (t : Cells) (i j : Nat) :
  (t.takeOut i).content j = t.content j
  := by
  unfold takeOut
  split
  · rfl
  · rw [content_setParent, content_mapChildren]

theorem parent?_takeOut_self (t : Cells) (i : Nat) :
  (t.takeOut i).parent? i = none
  := by
  unfold takeOut
  split
  · next h => exact h
  · next p h =>
    have hi := lt_size_of_parent? h
    rw [parent?_setParent, size_mapChildren, if_pos ⟨rfl, hi⟩]

theorem mem_children_takeOut {t : Cells} (h : Linked t) {i j q : Nat} :
  j ∈ (t.takeOut i).children q ↔ j ∈ t.children q ∧ j ≠ i
  := by
  unfold takeOut
  split
  · next hi =>
    refine ⟨fun hj => ⟨hj, ?_⟩, fun hj => hj.1⟩
    rintro rfl
    rw [h.parent_eq hj] at hi
    cases hi
  · next p hp =>
    rw [children_setParent, children_mapChildren]
    split
    · rw [Array.mem_filter, bne_iff_ne]
    · next hq =>
      refine ⟨fun hj => ⟨hj, ?_⟩, fun hj => hj.1⟩
      rintro rfl
      have hpq : p = q := Option.some_inj.1 (hp.symm.trans (h.parent_eq hj))
      exact hq ⟨hpq, lt_size_of_mem_children hj⟩

theorem parent?_takeOut_of_ne {t : Cells} {i j : Nat} (h : j ≠ i) :
  (t.takeOut i).parent? j = t.parent? j
  := by
  unfold takeOut
  split
  · rfl
  · rw [parent?_setParent, if_neg fun hij => h hij.1.symm, parent?_mapChildren]

theorem Linked.takeOut {t : Cells} (h : Linked t) (i : Nat) :
  Linked (t.takeOut i)
  := by
  refine ⟨?_, ?_, ?_, ?_⟩
  · intro q j hj
    obtain ⟨hj, hne⟩ := (mem_children_takeOut h).1 hj
    rw [parent?_takeOut_of_ne hne]
    exact h.parent_eq hj
  · intro q
    unfold Cells.takeOut
    split
    · exact h.nodup q
    · rw [children_setParent, children_mapChildren]
      split
      · rw [Array.toList_filter]
        exact (h.nodup q).filter _
      · exact h.nodup q
  · by_cases hi : 0 = i
    · rw [← hi]
      exact parent?_takeOut_self t 0
    · rw [parent?_takeOut_of_ne hi]
      exact h.top
  · rw [size_takeOut]
    exact h.nonempty

/-! ### Putting a node into a parent -/

/-- Functions that put a number somewhere into lists, or leave them as they are. -/
def Puts (i : Nat) (f : Array Nat → Array Nat) : Prop :=
  ∀ ns : Array Nat, (f ns).toList.Perm (i :: ns.toList) ∨ f ns = ns

theorem Puts.mem {i j : Nat} {f : Array Nat → Array Nat} (hf : Puts i f) {ns : Array Nat}
    (h : j ∈ f ns) :
  j = i ∨ j ∈ ns
  := by
  rcases hf ns with hperm | heq
  · rw [Array.mem_def, hperm.mem_iff, List.mem_cons] at h
    rw [Array.mem_def]
    exact h
  · rw [heq] at h
    exact .inr h

theorem Puts.mem_of_mem {i j : Nat} {f : Array Nat → Array Nat} (hf : Puts i f) {ns : Array Nat}
    (h : j ∈ ns) :
  j ∈ f ns
  := by
  rcases hf ns with hperm | heq
  · rw [Array.mem_def, hperm.mem_iff]
    exact List.mem_cons_of_mem _ (Array.mem_def.1 h)
  · rwa [heq]

theorem Puts.nodup {i : Nat} {f : Array Nat → Array Nat} (hf : Puts i f) {ns : Array Nat}
    (hi : i ∉ ns) (h : ns.toList.Nodup) :
  (f ns).toList.Nodup
  := by
  rcases hf ns with hperm | heq
  · apply hperm.nodup_iff.2
    exact List.nodup_cons.2 ⟨fun hmem => hi (Array.mem_def.2 hmem), h⟩
  · rwa [heq]

theorem puts_push (i : Nat) :
  Puts i fun ns => ns.push i
  := by
  intro ns
  left
  rw [Array.toList_push]
  exact List.perm_append_comm

theorem puts_insertIdx (i k : Nat) :
  Puts i fun ns => ns.insertIdxIfInBounds k i
  := by
  intro ns
  by_cases hk : k ≤ ns.size
  · left
    simp only [Array.insertIdxIfInBounds, hk, dite_true, Array.toList_insertIdx]
    exact List.perm_insertIdx i ns.toList hk
  · right
    simp only [Array.insertIdxIfInBounds, hk, dite_false]

/-- The table with a node that stands nowhere put among the children of another. -/
def attach (t : Cells) (p i : Nat) (f : Array Nat → Array Nat) : Cells :=
  (t.mapChildren p f).setParent i (some p)

theorem Linked.attach {t : Cells} (h : Linked t) {i : Nat} (hloose : t.parent? i = none)
    (hpos : 0 < i) (hi : i < t.size) (p : Nat) {f : Array Nat → Array Nat} (hf : Puts i f) :
  Linked (t.attach p i f)
  := by
  have hnot : ∀ q, i ∉ t.children q := by
    intro q hq
    have := h.parent_eq hq
    rw [hloose] at this
    cases this
  refine ⟨?_, ?_, ?_, ?_⟩
  · intro q j hj
    rw [Cells.attach, children_setParent, children_mapChildren] at hj
    rw [Cells.attach, parent?_setParent, parent?_mapChildren, size_mapChildren]
    split at hj
    · next hq =>
      rcases hf.mem hj with rfl | hj
      · rw [if_pos ⟨rfl, hi⟩, hq.1]
      · have hne : i ≠ j := fun hij => hnot q (hij ▸ hj)
        rw [if_neg fun hij => hne hij.1]
        exact h.parent_eq hj
    · have hne : i ≠ j := fun hij => hnot q (hij ▸ hj)
      rw [if_neg fun hij => hne hij.1]
      exact h.parent_eq hj
  · intro q
    rw [Cells.attach, children_setParent, children_mapChildren]
    split
    · exact hf.nodup (hnot q) (h.nodup q)
    · exact h.nodup q
  · rw [Cells.attach, parent?_setParent, if_neg fun h0 => Nat.ne_of_gt hpos h0.1,
      parent?_mapChildren]
    exact h.top
  · rw [Cells.attach, size_setParent, size_mapChildren]
    exact h.nonempty

/-! ### The element that a document consists of -/

/-- Tables in which the document holds an element. -/
def Rooted (t : Cells) : Prop :=
  ∃ r ∈ t.children 0, (t.content r).isElement = true

/-- Whether a node may be moved: it is in the table, and it is neither the document nor an element
that the document holds. -/
def movable (t : Cells) (i : Nat) : Bool :=
  0 < i && i < t.size && !(t.parent? i == some 0 && (t.content i).isElement)

theorem pos_of_movable {t : Cells} {i : Nat} (h : t.movable i = true) :
  0 < i
  := by
  simp only [movable, Bool.and_eq_true, decide_eq_true_eq] at h
  exact h.1.1

theorem lt_size_of_movable {t : Cells} {i : Nat} (h : t.movable i = true) :
  i < t.size
  := by
  simp only [movable, Bool.and_eq_true, decide_eq_true_eq] at h
  exact h.1.2

/-- A node that may be moved is not an element that the document holds. -/
theorem ne_of_movable {t : Cells} (hl : Linked t) {i r : Nat} (h : t.movable i = true)
    (hr : r ∈ t.children 0) (helement : (t.content r).isElement = true) :
  r ≠ i
  := by
  rintro rfl
  have hparent := hl.parent_eq hr
  simp only [movable, hparent, helement, beq_self_eq_true, Bool.and_self, Bool.not_true,
    Bool.and_false, Bool.false_eq_true] at h

theorem movable_make {t : Cells} (h : Linked t) (c : Content) :
  (t.make c).movable t.size = true
  := by
  have hparent : t.parent? t.size = none := by
    simp only [parent?, Array.getElem?_eq_none (Nat.le_refl _), Option.bind_none]
  simp only [movable, parent?_make, hparent, size_make, Bool.and_eq_true, decide_eq_true_eq]
  exact ⟨⟨h.nonempty, Nat.lt_succ_self _⟩, rfl⟩

theorem Rooted.make {t : Cells} (h : Rooted t) (hl : Linked t) (c : Content) :
  Rooted (t.make c)
  := by
  obtain ⟨r, hr, helement⟩ := h
  refine ⟨r, by rwa [children_make], ?_⟩
  rwa [content_make t c (lt_size_of_parent? (hl.parent_eq hr))]

theorem Rooted.mapContent {t : Cells} (h : Rooted t) (hl : Linked t) (i : Nat)
    {f : Content → Content} (hf : ∀ c : Content, c.isElement = true → (f c).isElement = true) :
  Rooted (t.mapContent i f)
  := by
  obtain ⟨r, hr, helement⟩ := h
  refine ⟨r, by rwa [children_mapContent], ?_⟩
  rw [content_mapContent t i f (lt_size_of_parent? (hl.parent_eq hr))]
  split
  · exact hf _ helement
  · exact helement

theorem Rooted.takeOut {t : Cells} (h : Rooted t) (hl : Linked t) {i : Nat}
    (hi : t.movable i = true) :
  Rooted (t.takeOut i)
  := by
  obtain ⟨r, hr, helement⟩ := h
  refine ⟨r, (mem_children_takeOut hl).2 ⟨hr, ne_of_movable hl hi hr helement⟩, ?_⟩
  rwa [content_takeOut]

theorem Rooted.attach {t : Cells} (h : Rooted t) (p : Nat) {i : Nat} {f : Array Nat → Array Nat}
    (hf : Puts i f) :
  Rooted (t.attach p i f)
  := by
  obtain ⟨r, hr, helement⟩ := h
  refine ⟨r, ?_, ?_⟩
  · rw [Cells.attach, children_setParent, children_mapChildren]
    split
    · exact hf.mem_of_mem hr
    · exact hr
  · rwa [Cells.attach, content_setParent, content_mapChildren]

/-! ### Moving a node -/

/-- The table with a node taken out of its parent, if it may be moved. -/
def detach (t : Cells) (i : Nat) : Cells :=
  if t.movable i then t.takeOut i else t

/-- The table with a node moved to the end of a parent's children, if it may be moved. -/
def append (t : Cells) (p i : Nat) : Cells :=
  if t.movable i then (t.takeOut i).attach p i fun ns => ns.push i else t

/-- The table with a node moved to the place before a sibling, if it may be moved. -/
def insertBefore (t : Cells) (sibling i : Nat) : Cells :=
  if t.movable i then
    match (t.takeOut i).place? sibling with
    | none => t.takeOut i
    | some (p, k) => (t.takeOut i).attach p i fun ns => ns.insertIdxIfInBounds k i
  else t

theorem Linked.detach {t : Cells} (h : Linked t) (i : Nat) :
  Linked (t.detach i)
  := by
  unfold Cells.detach
  split
  · exact h.takeOut i
  · exact h

theorem Linked.attach_takeOut {t : Cells} (h : Linked t) {i : Nat} (hi : t.movable i = true)
    (p : Nat) {f : Array Nat → Array Nat} (hf : Puts i f) :
  Linked ((t.takeOut i).attach p i f)
  := by
  apply (h.takeOut i).attach (parent?_takeOut_self t i) (pos_of_movable hi) _ p hf
  rw [size_takeOut]
  exact lt_size_of_movable hi

theorem Linked.append {t : Cells} (h : Linked t) (p i : Nat) :
  Linked (t.append p i)
  := by
  unfold Cells.append
  split
  · next hi => exact h.attach_takeOut hi p (puts_push i)
  · exact h

theorem Linked.insertBefore {t : Cells} (h : Linked t) (sibling i : Nat) :
  Linked (t.insertBefore sibling i)
  := by
  unfold Cells.insertBefore
  split
  · next hi =>
    split
    · exact h.takeOut i
    · next p k _ => exact h.attach_takeOut hi p (puts_insertIdx i k)
  · exact h

theorem Rooted.detach {t : Cells} (h : Rooted t) (hl : Linked t) (i : Nat) :
  Rooted (t.detach i)
  := by
  unfold Cells.detach
  split
  · next hi => exact h.takeOut hl hi
  · exact h

theorem Rooted.append {t : Cells} (h : Rooted t) (hl : Linked t) (p i : Nat) :
  Rooted (t.append p i)
  := by
  unfold Cells.append
  split
  · next hi => exact (h.takeOut hl hi).attach p (puts_push i)
  · exact h

theorem Rooted.insertBefore {t : Cells} (h : Rooted t) (hl : Linked t) (sibling i : Nat) :
  Rooted (t.insertBefore sibling i)
  := by
  unfold Cells.insertBefore
  split
  · next hi =>
    split
    · exact h.takeOut hl hi
    · next p k _ => exact (h.takeOut hl hi).attach p (puts_insertIdx i k)
  · exact h

/-- A table is rooted once an element has been put into the document. -/
theorem rooted_append {t : Cells} (hl : Linked t) {i : Nat} (hi : t.movable i = true)
    (helement : (t.content i).isElement = true) :
  Rooted (t.append 0 i)
  := by
  have hsize : 0 < (t.takeOut i).size := by
    rw [size_takeOut]
    exact hl.nonempty
  refine ⟨i, ?_, ?_⟩
  · rw [Cells.append, if_pos hi, Cells.attach, children_setParent, children_mapChildren,
      if_pos ⟨rfl, hsize⟩]
    exact Array.mem_push_self
  · rwa [Cells.append, if_pos hi, Cells.attach, content_setParent, content_mapChildren,
      content_takeOut]

end Cells

end PageModel.Html
