import Mathlib.Data.List.Nodup
import Mathlib.Data.List.Pairwise
import Mathlib.Data.List.Perm.Basic
import Mathlib.Logic.Relation
import PageModel.Html.Node

/-!
# What stands below a node

The nodes below a node are its children and what is below them (`IsBelow`), and they are the ones
that `preorder` lists after the node itself. In a tree whose numbers are distinct a number tells the
node and the node that it is a child of, and of two nodes one stands before the other (`Precedes`).
-/

namespace PageModel.Html

theorem Node.sizeOf_lt_of_mem_children {n c : Node} (h : c ∈ n.children) :
  sizeOf c < sizeOf n
  := by
  obtain ⟨id, content, children⟩ := n
  have hlt : sizeOf c < sizeOf children := List.sizeOf_lt_of_mem h
  simp only [Node.mk.sizeOf_spec]
  omega

/-- Induction over trees: what holds of a node if it holds of its children holds of all nodes. -/
theorem Node.induction {motive : Node → Prop}
    (step : ∀ n : Node, (∀ c ∈ n.children, motive c) → motive n) (n : Node) :
  motive n
  := step n fun c _hc => Node.induction step c
termination_by sizeOf n
decreasing_by exact Node.sizeOf_lt_of_mem_children _hc

/-! ### Lists of nodes -/

theorem forestPreorder_eq (ns : List Node) :
  forestPreorder ns = ns.flatMap Node.preorder
  := by
  induction ns with
  | nil => rfl
  | cons n ns ih => rw [forestPreorder, ih, List.flatMap_cons]

namespace Node

theorem preorder_eq (n : Node) :
  n.preorder = n :: n.children.flatMap preorder
  := by
  obtain ⟨id, content, children⟩ := n
  rw [preorder, forestPreorder_eq]

theorem mem_preorder_self (n : Node) :
  n ∈ n.preorder
  := by
  rw [preorder_eq]
  exact List.mem_cons_self

/-- The nodes of a tree are its root and the children of its nodes. -/
theorem preorder_perm (n : Node) :
  n.preorder.Perm (n :: n.preorder.flatMap children)
  := by
  induction n using Node.induction with
  | step n ih =>
      have hchildren : (n.children.flatMap preorder).Perm
          (n.children.flatMap fun c => c :: c.preorder.flatMap children) :=
        List.Perm.flatMap_left _ ih
      have hsplit : (n.children.flatMap fun c => c :: c.preorder.flatMap children).Perm
          (n.children ++ n.children.flatMap fun c => c.preorder.flatMap children) := by
        have := List.map_append_flatMap_perm n.children (fun c => c)
          fun c => c.preorder.flatMap children
        rw [List.map_id'] at this
        exact this.symm
      rw [preorder_eq, List.flatMap_cons, List.flatMap_assoc]
      exact (hchildren.trans hsplit).cons n

/-! ### Below -/

/-- The relation of standing below a node, as a child or deeper. -/
def IsBelow : Node → Node → Prop :=
  Relation.TransGen fun n c => c ∈ n.children

theorem isBelow_of_mem_children {n c : Node} (h : c ∈ n.children) :
  IsBelow n c
  := .single h

theorem mem_preorder_of_mem_children {n c m : Node} (hc : c ∈ n.children) (hm : m ∈ c.preorder) :
  m ∈ n.preorder
  := by
  rw [preorder_eq]
  exact List.mem_cons_of_mem _ (List.mem_flatMap.2 ⟨c, hc, hm⟩)

/-- A tree lists its root and what is below that. -/
theorem mem_preorder_iff {n m : Node} :
  m ∈ n.preorder ↔ m = n ∨ IsBelow n m
  := by
  constructor
  · intro hm
    induction n using Node.induction with
    | step n ih =>
        rw [preorder_eq, List.mem_cons, List.mem_flatMap] at hm
        rcases hm with rfl | ⟨c, hc, hm⟩
        · exact .inl rfl
        · right
          rcases ih c hc hm with rfl | hbelow
          · exact isBelow_of_mem_children hc
          · exact Relation.TransGen.head hc hbelow
  · rintro (rfl | hbelow)
    · exact mem_preorder_self m
    · induction hbelow using Relation.TransGen.head_induction_on with
      | single hc => exact mem_preorder_of_mem_children hc (mem_preorder_self m)
      | head hc _ ih => exact mem_preorder_of_mem_children hc ih

theorem mem_preorder_trans {n m k : Node} (hm : m ∈ n.preorder) (hk : k ∈ m.preorder) :
  k ∈ n.preorder
  := by
  rw [mem_preorder_iff] at *
  rcases hm with rfl | hm
  · exact hk
  · rcases hk with rfl | hk
    · exact .inr hm
    · exact .inr (hm.trans hk)

/-- What is below a node are the children of nodes in its tree. -/
theorem isBelow_iff {n m : Node} :
  IsBelow n m ↔ ∃ p ∈ n.preorder, m ∈ p.children
  := by
  constructor
  · intro h
    rcases Relation.TransGen.tail'_iff.1 h with ⟨p, hp, hm⟩
    refine ⟨p, ?_, hm⟩
    rw [mem_preorder_iff]
    rcases Relation.reflTransGen_iff_eq_or_transGen.1 hp with rfl | hp
    · exact .inl rfl
    · exact .inr hp
  · rintro ⟨p, hp, hm⟩
    rcases mem_preorder_iff.1 hp with rfl | hp
    · exact isBelow_of_mem_children hm
    · exact Relation.TransGen.tail hp hm

theorem sizeOf_lt_of_isBelow {n m : Node} (h : IsBelow n m) :
  sizeOf m < sizeOf n
  := by
  induction h with
  | single hc => exact sizeOf_lt_of_mem_children hc
  | tail _ hc ih => exact Nat.lt_trans (sizeOf_lt_of_mem_children hc) ih

/-- Nothing stands below itself. -/
theorem not_isBelow_self (n : Node) :
  ¬ IsBelow n n
  := by
  intro h
  apply Nat.lt_irrefl _ (sizeOf_lt_of_isBelow h)

/-! ### Distinct numbers -/

/-- Trees no two nodes of which have one number. -/
def Distinct (n : Node) : Prop :=
  (n.preorder.map (·.id)).Nodup

/-- Nodes with one number are one node. -/
theorem Distinct.eq_of_id_eq {n a b : Node} (h : n.Distinct) (ha : a ∈ n.preorder)
    (hb : b ∈ n.preorder) (hid : a.id = b.id) :
  a = b
  := List.inj_on_of_nodup_map h ha hb hid

/-- A node is the child of one node at most. -/
theorem Distinct.parent_unique {n p q c : Node} (h : n.Distinct) (hp : p ∈ n.preorder)
    (hq : q ∈ n.preorder) (hcp : c ∈ p.children) (hcq : c ∈ q.children) :
  p = q
  := by
  have hnodup : (n.preorder.flatMap children).Nodup :=
    (List.nodup_cons.1 (n.preorder_perm.nodup_iff.1 (List.Nodup.of_map _ h))).2
  obtain ⟨-, hdisjoint⟩ := List.nodup_flatMap.1 hnodup
  have : Std.Symm (Function.onFun List.Disjoint children) := ⟨fun _ _ hd _ hq hp => hd hp hq⟩
  by_contra hne
  exact hdisjoint.forall hp hq hne hcp hcq

/-- Of two parts of a tree that share a node, one is a part of the other. -/
theorem Distinct.mem_preorder_or {n a b m : Node} (h : n.Distinct) (ha : a ∈ n.preorder)
    (hb : b ∈ n.preorder) (hma : m ∈ a.preorder) (hmb : m ∈ b.preorder) :
  a ∈ b.preorder ∨ b ∈ a.preorder
  := by
  -- Along the way from `a` down to the node, the way down from `b` is met or `b` is passed.
  have hmeets {p m : Node} (hp : p ∈ n.preorder) (hm : m ∈ p.children) (hmb : m ∈ b.preorder) :
      m = b ∨ p ∈ b.preorder := by
    rcases mem_preorder_iff.1 hmb with hself | hbelow
    · exact .inl hself
    · obtain ⟨q, hq, hmq⟩ := isBelow_iff.1 hbelow
      right
      rwa [h.parent_unique hp (mem_preorder_trans hb hq) hm hmq]
  rcases mem_preorder_iff.1 hma with rfl | hbelow
  · exact .inl hmb
  · induction hbelow with
    | single hm =>
        rcases hmeets ha hm hmb with rfl | hab
        · exact .inr hma
        · exact .inl hab
    | @tail p m hpa hm ih =>
        have hpa' : p ∈ a.preorder := mem_preorder_iff.2 (.inr hpa)
        rcases hmeets (mem_preorder_trans ha hpa') hm hmb with rfl | hpb
        · exact .inr hma
        · exact ih hpa' hpb

/-! ### The order of a tree -/

/-- The order in which a tree lists its nodes. -/
def Precedes (n a b : Node) : Prop :=
  [a, b].Sublist n.preorder

/-- The nodes of a part of a tree are listed in the order that they have in it. -/
theorem preorder_sublist {n m : Node} (hm : m ∈ n.preorder) :
  m.preorder.Sublist n.preorder
  := by
  induction n using Node.induction with
  | step n ih =>
      rw [preorder_eq n, List.mem_cons, List.mem_flatMap] at hm
      rcases hm with rfl | ⟨c, hc, hm⟩
      · exact .refl _
      · have hchild : c.preorder.Sublist (n.children.flatMap preorder) := by
          rw [List.flatMap_def]
          exact List.sublist_flatten_of_mem (List.mem_map_of_mem hc)
        rw [preorder_eq n]
        exact ((ih c hc hm).trans hchild).trans (List.sublist_cons_self _ _)

/-- The children of a node are listed in the order in which they stand. -/
theorem children_sublist (n : Node) :
  n.children.Sublist n.preorder
  := by
  rw [preorder_eq]
  apply List.Sublist.cons
  induction n.children with
  | nil => exact .refl _
  | cons c cs ih =>
      rw [List.flatMap_cons, preorder_eq, List.cons_append]
      exact (ih.trans (List.sublist_append_right _ _)).cons_cons c

theorem Precedes.of_mem_preorder {n m a b : Node} (hm : m ∈ n.preorder) (h : m.Precedes a b) :
  n.Precedes a b
  := List.Sublist.trans h (preorder_sublist hm)

/-- Of two members of a list one comes before the other. -/
theorem pair_sublist_or {α : Type*} {l : List α} {a b : α} (ha : a ∈ l) (hb : b ∈ l) (hne : a ≠ b) :
  [a, b].Sublist l ∨ [b, a].Sublist l
  := by
  have hpairs : l.Pairwise fun a b => [a, b].Sublist l ∨ [b, a].Sublist l := by
    rw [List.pairwise_iff_forall_sublist]
    exact .inl
  have : Std.Symm fun a b => [a, b].Sublist l ∨ [b, a].Sublist l := ⟨fun _ _ h => h.symm⟩
  exact hpairs.forall ha hb hne

/-- A node does not precede one that precedes it. -/
theorem Distinct.not_precedes {n a b : Node} (h : n.Distinct) (hab : n.Precedes a b) :
  ¬ n.Precedes b a
  := by
  have hnodup : n.preorder.Nodup := List.Nodup.of_map _ h
  unfold Precedes at hab ⊢
  generalize n.preorder = l at hnodup hab
  induction l with
  | nil => cases hab
  | cons c l ih =>
      obtain ⟨hc, hnodup⟩ := List.nodup_cons.1 hnodup
      intro hba
      have hb : b ∈ l := hab.tail.subset List.mem_cons_self
      have ha : a ∈ l := hba.tail.subset List.mem_cons_self
      have hab' := List.Sublist.of_cons_of_ne (ne_of_mem_of_not_mem ha hc) hab
      have hba' := List.Sublist.of_cons_of_ne (ne_of_mem_of_not_mem hb hc) hba
      exact ih hnodup hab' hba'

end Node

end PageModel.Html
