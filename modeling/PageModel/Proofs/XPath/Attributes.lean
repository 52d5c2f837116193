import PageModel.Proofs.XPath.DocumentOrder

/-!
# Attributes below elements

A path that ends in an attribute anywhere below goes through the trees of the elements that the path
before it reaches, one tree after the other, and writes the attribute of every element in them. So an
element is written once for each element reached that it is or stands below
(`Path.selectAll_attrBelow`), which is more than once where elements reached stand in one another
(`selectAll_nested`).
-/

namespace PageModel.XPath

open Html

/-- The path to an attribute of elements that a path reaches, and of all elements below them. -/
def Path.attrBelow (p : Path) (a : String) : Path :=
  { p with output := .attr a, outputAxis := .descendant }

/-- The elements in the tree of a node that carry an attribute. -/
def carriers (a : String) (n : Node) : List Node :=
  n.elementsOrSelf.filter fun o => (o.attr? a).isSome

/-- Those of some elements in the trees of which a node is. In a document a node is told by its
number. -/
def enclosing (es : List Node) (o : Node) : List Node :=
  es.filter fun e => e.preorder.any fun n => n.id == o.id

/-! ### Members with multiplicity -/

section Lists

variable {α β : Type*}

theorem filter_eq_flatMap_replicate (q : α → Bool) (u : List α) :
  u.filter q = u.flatMap fun o => List.replicate (if q o then 1 else 0) o
  := by
  induction u with
  | nil => rfl
  | cons o u ih =>
      rw [List.flatMap_cons, ← ih]
      cases hq : q o with
      | false => rw [List.filter_cons_of_neg (by simp [hq])]; rfl
      | true => rw [List.filter_cons_of_pos hq]; rfl

/-- Parts of a list put together hold each member of it as often as there are parts with it. -/
theorem perm_flatMap_replicate {u : List α} {part : β → List α} {q : β → α → Bool} {bs : List β}
    (h : ∀ b ∈ bs, (part b).Perm (u.filter (q b))) :
  (bs.flatMap part).Perm (u.flatMap fun o => List.replicate (bs.countP fun b => q b o) o)
  := by
  induction bs with
  | nil => simp
  | cons b bs ih =>
      have hrest := ih fun c hc => h c (List.mem_cons_of_mem _ hc)
      have hcount (o : α) : List.replicate ((b :: bs).countP fun b => q b o) o
          = List.replicate (if q b o then 1 else 0) o
            ++ List.replicate (bs.countP fun b => q b o) o := by
        rw [List.replicate_append_replicate, List.countP_cons, Nat.add_comm]
      simp only [List.flatMap_cons, hcount]
      apply List.Perm.trans _ (List.flatMap_append_perm u _ _)
      rw [← filter_eq_flatMap_replicate]
      exact (h b List.mem_cons_self).append hrest

theorem filter_sublist_flatMap_replicate (k : α → Nat) (u : List α) :
  (u.filter fun o => 0 < k o).Sublist (u.flatMap fun o => List.replicate (k o) o)
  := by
  induction u with
  | nil => exact .refl _
  | cons o u ih =>
      rw [List.flatMap_cons, List.filter_cons]
      split
      · next hpos =>
        have hmem : o ∈ List.replicate (k o) o :=
          List.mem_replicate.2 ⟨Nat.ne_of_gt (of_decide_eq_true hpos), rfl⟩
        exact (List.singleton_sublist.2 hmem).append ih
      · apply ih.trans (List.sublist_append_right _ _)

/-- Members of a list that are there no more often than once are not repeated. -/
theorem le_one_of_length_le {k : α → Nat} {u : List α} (hu : u.Nodup)
    (h : (u.flatMap fun o => List.replicate (k o) o).length ≤ (u.filter fun o => 0 < k o).length) :
  ∀ o ∈ u, k o ≤ 1
  := by
  have hsame := (filter_sublist_flatMap_replicate k u).eq_of_length_le h
  have hnodup := hu.filter fun o => 0 < k o
  rw [hsame, List.nodup_flatMap] at hnodup
  intro o ho
  apply List.nodup_replicate.1 (hnodup.1 o ho)

theorem flatMap_replicate_eq_filter {k : α → Nat} {u : List α} (h : ∀ o ∈ u, k o ≤ 1) :
  (u.flatMap fun o => List.replicate (k o) o) = u.filter fun o => 0 < k o
  := by
  rw [filter_eq_flatMap_replicate]
  apply List.flatMap_congr
  intro o ho
  have hone := h o ho
  congr 1
  split
  · next hpos =>
    have hpos : 0 < k o := of_decide_eq_true hpos
    omega
  · next hpos =>
    have hzero : ¬ 0 < k o := fun hlt => hpos (decide_eq_true hlt)
    omega

theorem length_le_one_iff_of_nodup {l : List α} (h : l.Nodup) :
  l.length ≤ 1 ↔ ∀ a ∈ l, ∀ b ∈ l, a = b
  := by
  constructor
  · intro hone a ha b hb
    obtain ⟨i, hi, rfl⟩ := List.getElem_of_mem ha
    obtain ⟨j, hj, rfl⟩ := List.getElem_of_mem hb
    obtain rfl : i = j := by omega
    rfl
  · intro hsame
    rcases l with _ | ⟨a, _ | ⟨b, l⟩⟩
    · exact Nat.zero_le _
    · exact Nat.le_refl _
    · have hab := hsame a List.mem_cons_self b (List.mem_cons_of_mem _ List.mem_cons_self)
      rw [hab, List.nodup_cons] at h
      exact absurd List.mem_cons_self h.1

end Lists

/-! ### Elements that carry an attribute -/

theorem mem_carriers {a : String} {n o : Node} :
  o ∈ carriers a n ↔ o ∈ n.preorder ∧ o.isElement = true ∧ (o.attr? a).isSome = true
  := by
  rw [carriers, List.mem_filter, Node.elementsOrSelf, List.mem_filter, and_assoc]

/-- Elements without the attribute are passed over. -/
theorem filterMap_carriers (a : String) (n : Node) :
  (carriers a n).filterMap (·.attr? a) = n.elementsOrSelf.filterMap (·.attr? a)
  := by
  rw [carriers, List.filterMap_filter]
  congr
  funext o
  cases o.attr? a <;> rfl

/-- Of two elements in the trees of which a node is that carries an attribute, none stands below the
other, if no tree of an element that stands below another one holds such a node. -/
theorem eq_of_mem_preorder {a : String} {es : List Node} {e f o : Node}
    (hapart : ∀ e ∈ es, ∀ f ∈ es, e.IsBelow f → carriers a f = []) (he : e ∈ es) (hf : f ∈ es)
    (hof : o ∈ carriers a f) (hef : f ∈ e.preorder) :
  f = e
  := by
  rcases Node.mem_preorder_iff.1 hef with hself | hbelow
  · exact hself
  · rw [hapart e he f hf hbelow] at hof
    cases hof

theorem Path.selectAll_attrBelow_eq (p : Path) (a : String) (text : String) :
  (p.attrBelow a).selectAll text
    = ((p.evaluate (Html.parse text)).flatMap (carriers a)).filterMap (·.attr? a)
  := by
  rw [List.filterMap_flatMap]
  simp only [filterMap_carriers]
  rfl

section Document

variable {document : Node} (hdocument : document.Distinct)

include hdocument

/-- A number tells whether a node is in a tree. -/
theorem any_id_preorder_iff {e o : Node} (he : e ∈ document.preorder)
    (ho : o ∈ document.preorder) :
  (e.preorder.any fun n => n.id == o.id) = true ↔ o ∈ e.preorder
  := by
  rw [List.any_eq_true]
  constructor
  · rintro ⟨n, hn, hid⟩
    rwa [← hdocument.eq_of_id_eq (Node.mem_preorder_trans he hn) ho (eq_of_beq hid)]
  · intro hmem
    use o, hmem
    apply beq_self_eq_true

theorem mem_enclosing {es : List Node} (hes : ∀ e ∈ es, e ∈ document.preorder) {e o : Node}
    (ho : o ∈ document.preorder) :
  e ∈ enclosing es o ↔ e ∈ es ∧ o ∈ e.preorder
  := by
  rw [enclosing, List.mem_filter]
  apply and_congr_right
  intro he
  apply any_id_preorder_iff hdocument (hes e he) ho

theorem nodup_carriers {a : String} {n : Node} (hn : n ∈ document.preorder) :
  (carriers a n).Nodup
  := by
  have hsublist : (carriers a n).Sublist document.preorder :=
    (List.filter_sublist.trans List.filter_sublist).trans (Node.preorder_sublist hn)
  exact (List.Nodup.of_map _ hdocument).sublist hsublist

/-- The elements that carry an attribute in a part of a tree are those of the tree that are in it. -/
theorem carriers_perm {a : String} {root e : Node} (hroot : root ∈ document.preorder)
    (he : e ∈ root.preorder) :
  (carriers a e).Perm ((carriers a root).filter fun o => e.preorder.any fun n => n.id == o.id)
  := by
  have he' := Node.mem_preorder_trans hroot he
  rw [List.perm_ext_iff_of_nodup (nodup_carriers hdocument he')
    ((nodup_carriers hdocument hroot).filter _)]
  intro o
  rw [List.mem_filter, mem_carriers, mem_carriers]
  constructor
  · rintro ⟨hmem, hcarries⟩
    have ho := Node.mem_preorder_trans he hmem
    refine ⟨⟨ho, hcarries⟩, ?_⟩
    rwa [any_id_preorder_iff hdocument he' (Node.mem_preorder_trans hroot ho)]
  · rintro ⟨⟨ho, hcarries⟩, hany⟩
    rw [any_id_preorder_iff hdocument he' (Node.mem_preorder_trans hroot ho)] at hany
    exact ⟨hany, hcarries⟩

/-- No element that carries an attribute is in two of some trees, if and only if none is in the tree of
an element that stands below another one of them. -/
theorem length_enclosing_le_one_iff {a : String} {root : Node} (hroot : root ∈ document.preorder)
    {es : List Node} (hes : ∀ e ∈ es, e ∈ root.preorder) (hnodup : es.Nodup) :
  (∀ o ∈ carriers a root, (enclosing es o).length ≤ 1)
    ↔ ∀ e ∈ es, ∀ f ∈ es, e.IsBelow f → carriers a f = []
  := by
  have hes' (e : Node) (he : e ∈ es) : e ∈ document.preorder :=
    Node.mem_preorder_trans hroot (hes e he)
  have hmem {e o : Node} (ho : o ∈ root.preorder) : e ∈ enclosing es o ↔ e ∈ es ∧ o ∈ e.preorder :=
    mem_enclosing hdocument hes' (Node.mem_preorder_trans hroot ho)
  have hone (o : Node) : (enclosing es o).length ≤ 1
      ↔ ∀ e ∈ enclosing es o, ∀ f ∈ enclosing es o, e = f :=
    length_le_one_iff_of_nodup (hnodup.filter _)
  simp only [hone]
  constructor
  · intro hsame e he f hf hbelow
    apply List.eq_nil_iff_forall_not_mem.2
    intro o ho
    obtain ⟨hof, hcarries⟩ := mem_carriers.1 ho
    have hoe := Node.mem_preorder_trans (Node.mem_preorder_iff.2 (.inr hbelow)) hof
    have horoot := Node.mem_preorder_trans (hes f hf) hof
    obtain rfl := hsame o (mem_carriers.2 ⟨horoot, hcarries⟩) e ((hmem horoot).2 ⟨he, hoe⟩) f
      ((hmem horoot).2 ⟨hf, hof⟩)
    exact Node.not_isBelow_self _ hbelow
  · intro hapart o ho e he f hf
    obtain ⟨horoot, hcarries⟩ := mem_carriers.1 ho
    obtain ⟨he, hoe⟩ := (hmem horoot).1 he
    obtain ⟨hf, hof⟩ := (hmem horoot).1 hf
    rcases hdocument.mem_preorder_or (hes' e he) (hes' f hf) hoe hof with hef | hfe
    · exact eq_of_mem_preorder hapart hf he (mem_carriers.2 ⟨hoe, hcarries⟩) hef
    · exact (eq_of_mem_preorder hapart he hf (mem_carriers.2 ⟨hof, hcarries⟩) hfe).symm

end Document

/-! ### What is selected -/

/-- What a path to an attribute anywhere below selects, up to order: the value of each element that
carries the attribute, as many times as there are elements that the path before it reaches and in the
trees of which the element is. Every element that is in such a tree has its value there once, if and
only if no element reached that stands below another one has an element with the attribute in its
tree. -/
theorem Path.selectAll_attrBelow (p : Path) (a : String) (text : String) :
  ∃ root, (Html.parse text).rootElement? = some root ∧
    ((p.attrBelow a).selectAll text).Perm
      (((carriers a root).flatMap fun o =>
        List.replicate (enclosing (p.evaluate (Html.parse text)) o).length o).filterMap
          (·.attr? a)) ∧
    (((p.attrBelow a).selectAll text).Perm
        (((carriers a root).filter fun o =>
          0 < (enclosing (p.evaluate (Html.parse text)) o).length).filterMap (·.attr? a))
      ↔ ∀ e ∈ p.evaluate (Html.parse text), ∀ f ∈ p.evaluate (Html.parse text),
          e.IsBelow f → carriers a f = [])
  := by
  obtain ⟨root, hroot⟩ := exists_rootElement? text
  have hdocument := distinct_parse text
  have hmade := p.increasing_evaluate hroot
  have hes (e : Node) (he : e ∈ p.evaluate (Html.parse text)) : e ∈ root.preorder :=
    List.mem_of_mem_filter (p.mem_elementsOrSelf hroot hdocument he)
  rw [p.selectAll_attrBelow_eq a text]
  generalize p.evaluate (Html.parse text) = es at hmade hes
  have hrootmem := (isPlaced_root hroot).mem_preorder
  have hperm : (es.flatMap (carriers a)).Perm
      ((carriers a root).flatMap fun o => List.replicate (enclosing es o).length o) := by
    simp only [enclosing, ← List.countP_eq_length_filter]
    apply perm_flatMap_replicate
    exact fun e he => carriers_perm hdocument hrootmem (hes e he)
  have hnodup : es.Nodup := by
    apply hmade.imp
    rintro e _ hlt rfl
    exact Nat.lt_irrefl _ hlt
  refine ⟨root, hroot, hperm.filterMap _, ?_⟩
  rw [← length_enclosing_le_one_iff hdocument hrootmem hes hnodup]
  constructor
  · intro honce
    have hlength := ((hperm.filterMap (·.attr? a)).symm.trans honce).length_eq
    rw [List.filterMap_length_eq_length.2, List.filterMap_length_eq_length.2] at hlength
    · apply le_one_of_length_le (nodup_carriers hdocument hrootmem) (Nat.le_of_eq hlength)
    · intro o ho
      exact (mem_carriers.1 (List.mem_of_mem_filter ho)).2.2
    · intro o ho
      obtain ⟨c, hc, ho⟩ := List.mem_flatMap.1 ho
      rw [List.eq_of_mem_replicate ho]
      exact (mem_carriers.1 hc).2.2
  · intro hone
    rw [← flatMap_replicate_eq_filter hone]
    apply hperm.filterMap

/-! ### Elements in one another -/

/-- The step to all divisions. -/
def division : Step :=
  { axis := .descendant, test := .tag "div", predicates := [] }

/-- The path to all divisions. -/
def divisions : Path :=
  { steps := [division], output := .outerMarkup, outputAxis := .child }

/-- The class of the inner one of two divisions is selected twice: once below each of them. -/
theorem selectAll_nested :
  Path.parse "//div//@class" = .ok (divisions.attrBelow "class") ∧
    (divisions.attrBelow "class").selectAll "<div class=a><div class=b>" = ["a", "b", "b"] ∧
    (carriers "class" (Html.parse "<div class=a><div class=b>")).filterMap (·.attr? "class")
      = ["a", "b"] ∧
    ¬ ((divisions.attrBelow "class").selectAll "<div class=a><div class=b>").Perm
      ((carriers "class" (Html.parse "<div class=a><div class=b>")).filterMap (·.attr? "class"))
  := by
  have htaken : (locatedRoot? (Html.parse "<div class=a><div class=b>")).map (fun root =>
      ((division.firstCandidates root).filter division.accepts).map fun e =>
        (e.node.id, (divisions.attrBelow "class").render e.node))
      = some [(4, ["a", "b"]), (5, ["b"])] := by
    decide +kernel
  have hcarriers :
      (carriers "class" (Html.parse "<div class=a><div class=b>")).filterMap (·.attr? "class")
        = ["a", "b"] := by
    decide +kernel
  have hselected : (divisions.attrBelow "class").selectAll "<div class=a><div class=b>"
      = ["a", "b", "b"] :=
    Path.selectAll_of_taken rfl htaken (by decide)
  refine ⟨by decide +kernel, hselected, hcarriers, ?_⟩
  rw [hselected, hcarriers]
  intro hperm
  cases hperm.length_eq

end PageModel.XPath
