import PageModel.Proofs.Html.Root
import PageModel.Proofs.XPath.Chain

/-!
# A path reaches the ends of its chains

An element is handed on from step to step together with the elements beside it. In a document the
numbers of which are distinct these are determined by the element (`IsPlaced.eq_of_id_eq`), so that
nothing is lost when repetitions are left out. What a list of steps reaches is then, by induction on
the steps, at the ends of the chains that go on from where it starts (`mem_reachFrom`).
-/

namespace PageModel.XPath

open Html

/-! ### Places -/

/-- Elements in the places that they have below a node. -/
def IsPlaced (n : Node) (e : Located) : Prop :=
  ∃ parent ∈ n.preorder, e.node ∈ parent.childElements ∧ e.siblings = parent.childElements

theorem IsPlaced.isBelow {n : Node} {e : Located} (h : IsPlaced n e) :
  n.IsBelow e.node
  := by
  obtain ⟨p, hp, he, -⟩ := h
  exact Node.isBelow_iff.2 ⟨p, hp, List.mem_of_mem_filter he⟩

theorem IsPlaced.isElement {n : Node} {e : Located} (h : IsPlaced n e) :
  e.node.isElement = true
  := by
  obtain ⟨p, -, he, -⟩ := h
  exact (List.mem_filter.1 he).2

theorem IsPlaced.mem_preorder {n : Node} {e : Located} (h : IsPlaced n e) :
  e.node ∈ n.preorder
  := Node.mem_preorder_iff.2 (.inr h.isBelow)

theorem IsPlaced.of_mem_preorder {n m : Node} {e : Located} (hm : m ∈ n.preorder)
    (h : IsPlaced m e) :
  IsPlaced n e
  := by
  obtain ⟨p, hp, he⟩ := h
  exact ⟨p, Node.mem_preorder_trans hm hp, he⟩

/-- The siblings of an element are the children of whatever node it is a child of. -/
theorem IsPlaced.siblings_eq {n p : Node} {e : Located} (hn : n.Distinct) (h : IsPlaced n e)
    (hp : p ∈ n.preorder) (he : e.node ∈ p.children) :
  e.siblings = p.childElements
  := by
  obtain ⟨q, hq, heq, hsiblings⟩ := h
  rw [hsiblings, hn.parent_unique hq hp (List.mem_of_mem_filter heq) he]

/-- An element of a document that is below a node has its place below that node. -/
theorem IsPlaced.of_isBelow {n m : Node} {e : Located} (hn : n.Distinct) (hm : m ∈ n.preorder)
    (h : IsPlaced n e) (hbelow : m.IsBelow e.node) :
  IsPlaced m e
  := by
  obtain ⟨p, hp, hchild⟩ := Node.isBelow_iff.1 hbelow
  refine ⟨p, hp, List.mem_filter.2 ⟨hchild, h.isElement⟩, ?_⟩
  exact h.siblings_eq hn (Node.mem_preorder_trans hm hp) hchild

/-- An element is in one place of a document. -/
theorem IsPlaced.eq_of_id_eq {n : Node} {e f : Located} (hn : n.Distinct) (he : IsPlaced n e)
    (hf : IsPlaced n f) (hid : e.node.id = f.node.id) :
  e = f
  := by
  have hnode := hn.eq_of_id_eq he.mem_preorder hf.mem_preorder hid
  obtain ⟨p, hp, hep, hsiblings⟩ := hf
  have hsiblings' := he.siblings_eq hn hp (hnode ▸ List.mem_of_mem_filter hep)
  obtain ⟨siblings, node⟩ := e
  obtain ⟨siblings', node'⟩ := f
  simp only at hnode hsiblings hsiblings'
  rw [hnode, hsiblings, hsiblings']

/-- A step accepts an element in its place if and only if it accepts it in the document. -/
theorem IsPlaced.accepts_iff {n : Node} {e : Located} (hn : n.Distinct) (h : IsPlaced n e)
    (s : Step) :
  s.accepts e = true ↔ s.AcceptsIn n e.node
  := by
  constructor
  · intro haccepts
    obtain ⟨p, hp, he, hsiblings⟩ := h
    refine ⟨p, hp, he, ?_⟩
    rwa [← hsiblings]
  · rintro ⟨p, hp, he, haccepts⟩
    rwa [← h.siblings_eq hn hp (List.mem_of_mem_filter he)] at haccepts

theorem Step.AcceptsIn.exists_isPlaced {s : Step} {document n : Node}
    (h : s.AcceptsIn document n) :
  ∃ e : Located, e.node = n ∧ IsPlaced document e
  := by
  obtain ⟨p, hp, hn, -⟩ := h
  exact ⟨⟨p.childElements, n⟩, rfl, p, hp, hn, rfl⟩

/-- The last element of a chain that goes on from an element of a document is one of it. -/
theorem Follows.exists_isPlaced {document : Node} {e : Located} {ss : List Step} {fs : List Node}
    (h : Follows document e.node ss fs) (he : IsPlaced document e) :
  ∃ f : Located, f.node = fs.getLastD e.node ∧ IsPlaced document f
  := by
  induction fs generalizing e ss with
  | nil => exact ⟨e, rfl, he⟩
  | cons n fs ih =>
      cases h with
      | cons _ haccepts hfollows =>
          obtain ⟨f, rfl, hf⟩ := haccepts.exists_isPlaced
          rw [List.getLastD_cons]
          exact ih hfollows hf

/-! ### Elements below a node -/

theorem mem_locatedChildren {n : Node} {e : Located} :
  e ∈ locatedChildren n ↔ e.node ∈ n.childElements ∧ e.siblings = n.childElements
  := by
  rw [locatedChildren, List.mem_map]
  constructor
  · rintro ⟨m, hm, rfl⟩
    exact ⟨hm, rfl⟩
  · rintro ⟨he, hsiblings⟩
    use e.node, he
    rw [← hsiblings]

theorem locatedForest_eq (siblings : List Node) (ns : List Node) :
  locatedForest siblings ns
    = ns.flatMap fun n => (if n.isElement then [⟨siblings, n⟩] else []) ++ locatedBelow n
  := by
  induction ns with
  | nil => rfl
  | cons n ns ih => rw [locatedForest, ih, List.flatMap_cons]

/-- What is listed below a node are the elements below it in their places. -/
theorem mem_locatedBelow {n : Node} {e : Located} :
  e ∈ locatedBelow n ↔ IsPlaced n e
  := by
  induction n using Node.induction with
  | step n ih =>
      obtain ⟨id, content, children⟩ := n
      rw [locatedBelow, locatedForest_eq, List.mem_flatMap]
      constructor
      · rintro ⟨c, hc, he⟩
        rcases List.mem_append.1 he with he | he
        · split at he
          · next helement =>
            obtain rfl := List.mem_singleton.1 he
            exact ⟨_, Node.mem_preorder_self _, List.mem_filter.2 ⟨hc, helement⟩, rfl⟩
          · cases he
        · have hbelow := (ih c hc).1 he
          exact hbelow.of_mem_preorder
            (Node.mem_preorder_of_mem_children hc (Node.mem_preorder_self c))
      · rintro ⟨p, hp, he, hsiblings⟩
        rw [Node.preorder_eq, List.mem_cons, List.mem_flatMap] at hp
        rcases hp with rfl | ⟨c, hc, hp⟩
        · obtain ⟨hchild, helement⟩ := List.mem_filter.1 he
          refine ⟨e.node, hchild, List.mem_append_left _ ?_⟩
          rw [if_pos helement, List.mem_singleton]
          obtain ⟨siblings, node⟩ := e
          simp only at hsiblings
          rw [hsiblings]
          rfl
        · exact ⟨c, hc, List.mem_append_right _ ((ih c hc).2 ⟨p, hp, he, hsiblings⟩)⟩

/-! ### Elements in order -/

theorem mem_of_mem_withoutRepetition {e : Located} {es : List Located}
    (h : e ∈ withoutRepetition es) :
  e ∈ es
  := by
  fun_induction withoutRepetition es with
  | case1 => exact h
  | case2 => exact h
  | case3 d f es _ ih => exact List.mem_cons_of_mem _ (ih h)
  | case4 d f es _ ih =>
      rcases List.mem_cons.1 h with rfl | h
      · exact List.mem_cons_self
      · exact List.mem_cons_of_mem _ (ih h)

/-- What is left out has the number of something that stays. -/
theorem exists_mem_withoutRepetition {e : Located} {es : List Located} (h : e ∈ es) :
  ∃ f ∈ withoutRepetition es, f.node.id = e.node.id
  := by
  fun_induction withoutRepetition es generalizing e with
  | case1 => cases h
  | case2 d => exact ⟨e, h, rfl⟩
  | case3 d f es hid ih =>
      rcases List.mem_cons.1 h with rfl | h
      · obtain ⟨g, hg, hgid⟩ := ih List.mem_cons_self
        exact ⟨g, hg, hgid.trans hid.symm⟩
      · exact ih h
  | case4 d f es _ ih =>
      rcases List.mem_cons.1 h with rfl | h
      · exact ⟨e, List.mem_cons_self, rfl⟩
      · obtain ⟨g, hg, hgid⟩ := ih h
        exact ⟨g, List.mem_cons_of_mem _ hg, hgid⟩

theorem increasing_withoutRepetition {es : List Located}
    (h : es.Pairwise fun e f => e.node.id ≤ f.node.id) :
  (withoutRepetition es).Pairwise fun e f => e.node.id < f.node.id
  := by
  fun_induction withoutRepetition es with
  | case1 => exact .nil
  | case2 e => exact List.pairwise_singleton _ e
  | case3 e f es _ ih => exact ih h.tail
  | case4 e f es hne ih =>
      obtain ⟨hfirst, htail⟩ := List.pairwise_cons.1 h
      apply List.pairwise_cons.2
      constructor
      · intro g hg
        have hlt : e.node.id < f.node.id := Nat.lt_of_le_of_ne (hfirst f List.mem_cons_self) hne
        rcases List.mem_cons.1 (mem_of_mem_withoutRepetition hg) with rfl | hg
        · exact hlt
        · exact Nat.lt_of_lt_of_le hlt ((List.pairwise_cons.1 htail).1 g hg)
      · exact ih htail

theorem increasing_inOrder (es : List Located) :
  (inOrder es).Pairwise fun e f => e.node.id < f.node.id
  := by
  apply increasing_withoutRepetition
  have htrans : ∀ a b c : Located, decide (a.node.id ≤ b.node.id) = true →
      decide (b.node.id ≤ c.node.id) = true → decide (a.node.id ≤ c.node.id) = true := by
    intro a b c hab hbc
    exact decide_eq_true (Nat.le_trans (of_decide_eq_true hab) (of_decide_eq_true hbc))
  have htotal : ∀ a b : Located,
      (decide (a.node.id ≤ b.node.id) || decide (b.node.id ≤ a.node.id)) = true := by
    intro a b
    rw [Bool.or_eq_true, decide_eq_true_eq, decide_eq_true_eq]
    exact Nat.le_total _ _
  exact (List.pairwise_mergeSort htrans htotal es).imp fun h => of_decide_eq_true h

/-- Elements that are in order are left as they are. -/
theorem inOrder_eq_self {es : List Located}
    (h : es.Pairwise fun e f => e.node.id < f.node.id) :
  inOrder es = es
  := by
  have hsorted : es.Pairwise fun e f => decide (e.node.id ≤ f.node.id) = true :=
    h.imp fun hlt => decide_eq_true (Nat.le_of_lt hlt)
  rw [inOrder, List.mergeSort_of_pairwise hsorted]
  fun_induction withoutRepetition es with
  | case1 => rfl
  | case2 e => rfl
  | case3 e f es hid _ =>
      have hlt := (List.pairwise_cons.1 h).1 f List.mem_cons_self
      exact absurd hid (Nat.ne_of_lt hlt)
  | case4 e f es _ ih => rw [ih h.tail hsorted.tail]

/-- Nothing is lost when elements of a document are put in order. -/
theorem mem_inOrder {document : Node} (hdocument : document.Distinct) {es : List Located}
    (hes : ∀ e ∈ es, IsPlaced document e) {e : Located} :
  e ∈ inOrder es ↔ e ∈ es
  := by
  constructor
  · intro h
    exact List.mem_mergeSort.1 (mem_of_mem_withoutRepetition h)
  · intro h
    obtain ⟨f, hf, hid⟩ := exists_mem_withoutRepetition (List.mem_mergeSort.2 h)
    have hmem := List.mem_mergeSort.1 (mem_of_mem_withoutRepetition hf)
    rwa [(hes f hmem).eq_of_id_eq hdocument (hes e h) hid] at hf

/-! ### Single steps -/

section Document

variable {document : Node} (hdocument : document.Distinct)

include hdocument

/-- What a step looks at are the elements to which it leads. -/
theorem mem_candidates {s : Step} {es : List Located} (hes : ∀ e ∈ es, IsPlaced document e)
    {f : Located} :
  f ∈ s.candidates es ↔ IsPlaced document f ∧ ∃ e ∈ es, s.Leads e.node f.node
  := by
  unfold Step.candidates Step.Leads
  cases s.axis with
  | child =>
      simp only [List.mem_flatMap, mem_locatedChildren]
      constructor
      · rintro ⟨e, he, hf, hsiblings⟩
        exact ⟨⟨e.node, (hes e he).mem_preorder, hf, hsiblings⟩, e, he,
          List.mem_of_mem_filter hf⟩
      · rintro ⟨hplaced, e, he, hf⟩
        refine ⟨e, he, List.mem_filter.2 ⟨hf, hplaced.isElement⟩, ?_⟩
        exact hplaced.siblings_eq hdocument (hes e he).mem_preorder hf
  | descendant =>
      simp only [List.mem_flatMap, mem_locatedBelow]
      constructor
      · rintro ⟨e, he, hf⟩
        exact ⟨hf.of_mem_preorder (hes e he).mem_preorder, e, he, hf.isBelow⟩
      · rintro ⟨hplaced, e, he, hf⟩
        exact ⟨e, he, hplaced.of_isBelow hdocument (hes e he).mem_preorder hf⟩

/-- What the first step looks at are the elements from which it may start. -/
theorem mem_firstCandidates {s : Step} {root : Located} (hroot : IsPlaced document root)
    {e : Located} :
  e ∈ s.firstCandidates root ↔ IsPlaced document e ∧ s.Starts root.node e.node
  := by
  unfold Step.firstCandidates Step.Starts
  cases s.axis with
  | child =>
      simp only [List.mem_singleton]
      constructor
      · rintro rfl
        exact ⟨hroot, rfl⟩
      · rintro ⟨hplaced, hnode⟩
        exact hplaced.eq_of_id_eq hdocument hroot (congrArg Node.id hnode)
  | descendant =>
      simp only [List.mem_cons, mem_locatedBelow]
      constructor
      · rintro (rfl | he)
        · exact ⟨hroot, .inl rfl⟩
        · exact ⟨he.of_mem_preorder hroot.mem_preorder, .inr he.isBelow⟩
      · rintro ⟨hplaced, hnode | hbelow⟩
        · exact .inl (hplaced.eq_of_id_eq hdocument hroot (congrArg Node.id hnode))
        · exact .inr (hplaced.of_isBelow hdocument hroot.mem_preorder hbelow)

/-- What a step takes are the candidates that it accepts. -/
theorem mem_take {s : Step} {es : List Located} (hes : ∀ e ∈ es, IsPlaced document e)
    {f : Located} :
  f ∈ s.take es ↔ f ∈ es ∧ s.AcceptsIn document f.node
  := by
  have hfilter : ∀ e ∈ es.filter s.accepts, IsPlaced document e := by
    intro e he
    exact hes e (List.mem_of_mem_filter he)
  rw [Step.take, mem_inOrder hdocument hfilter, List.mem_filter]
  constructor
  · rintro ⟨hf, haccepts⟩
    exact ⟨hf, ((hes f hf).accepts_iff hdocument s).1 haccepts⟩
  · rintro ⟨hf, haccepts⟩
    exact ⟨hf, ((hes f hf).accepts_iff hdocument s).2 haccepts⟩

theorem isPlaced_of_mem_take {s : Step} {es : List Located}
    (hes : ∀ e ∈ es, IsPlaced document e) :
  ∀ e ∈ s.take es, IsPlaced document e
  := by
  intro e he
  exact hes e ((mem_take hdocument hes).1 he).1

/-! ### All steps -/

/-- What steps reach from elements is at the ends of the chains that go on from them. -/
theorem mem_reachFrom {ss : List Step} {es : List Located} (hes : ∀ e ∈ es, IsPlaced document e)
    {f : Located} :
  f ∈ reachFrom es ss ↔ IsPlaced document f ∧
    ∃ e ∈ es, ∃ fs, Follows document e.node ss fs ∧ fs.getLastD e.node = f.node
  := by
  induction ss generalizing es with
  | nil =>
      rw [reachFrom]
      constructor
      · intro hf
        exact ⟨hes f hf, f, hf, [], .nil _, rfl⟩
      · rintro ⟨hplaced, e, he, fs, hfollows, hlast⟩
        cases hfollows
        rwa [(hes e he).eq_of_id_eq hdocument hplaced (congrArg Node.id hlast)] at he
  | cons s ss ih =>
      have hcandidates : ∀ e ∈ s.candidates es, IsPlaced document e := by
        intro e he
        exact ((mem_candidates hdocument hes).1 he).1
      rw [reachFrom, ih (isPlaced_of_mem_take hdocument hcandidates)]
      constructor
      · rintro ⟨hplaced, e', he', fs, hfollows, hlast⟩
        obtain ⟨hmem, haccepts⟩ := (mem_take hdocument hcandidates).1 he'
        obtain ⟨-, e, he, hleads⟩ := (mem_candidates hdocument hes).1 hmem
        refine ⟨hplaced, e, he, e'.node :: fs, .cons hleads haccepts hfollows, ?_⟩
        rw [List.getLastD_cons, hlast]
      · rintro ⟨hplaced, e, he, fs, hfollows, hlast⟩
        cases hfollows with
        | @cons _ n _ _ fs hleads haccepts hfollows =>
            obtain ⟨e', rfl, hplaced'⟩ := haccepts.exists_isPlaced
            have hmem := (mem_candidates hdocument hes).2 ⟨hplaced', e, he, hleads⟩
            refine ⟨hplaced, e', (mem_take hdocument hcandidates).2 ⟨hmem, haccepts⟩, fs, hfollows,
              ?_⟩
            rw [List.getLastD_cons] at hlast
            exact hlast

/-- What steps reach from the root element is at the ends of their chains. -/
theorem mem_reach {ss : List Step} {root : Located} (hroot : IsPlaced document root) {n : Node} :
  n ∈ (reach root ss).map (·.node) ↔
    ∃ es, IsChain document root.node ss es ∧ es.getLastD root.node = n
  := by
  cases ss with
  | nil =>
      rw [reach, List.map_singleton, List.mem_singleton]
      constructor
      · rintro rfl
        exact ⟨[], .nil, rfl⟩
      · rintro ⟨es, hchain, rfl⟩
        cases hchain
        rfl
  | cons s ss =>
      have hcandidates : ∀ e ∈ s.firstCandidates root, IsPlaced document e := by
        intro e he
        exact ((mem_firstCandidates hdocument hroot).1 he).1
      have htake : ∀ e ∈ s.take (s.firstCandidates root), IsPlaced document e :=
        isPlaced_of_mem_take hdocument hcandidates
      rw [reach, List.mem_map]
      constructor
      · rintro ⟨f, hf, rfl⟩
        obtain ⟨-, e, he, es, hfollows, hlast⟩ := (mem_reachFrom hdocument htake).1 hf
        obtain ⟨hmem, haccepts⟩ := (mem_take hdocument hcandidates).1 he
        obtain ⟨-, hstarts⟩ := (mem_firstCandidates hdocument hroot).1 hmem
        refine ⟨e.node :: es, .cons hstarts haccepts hfollows, ?_⟩
        rw [List.getLastD_cons, hlast]
      · rintro ⟨es, hchain, hlast⟩
        cases hchain with
        | @cons _ _ _ es hstarts haccepts hfollows =>
            obtain ⟨e, rfl, hplaced⟩ := haccepts.exists_isPlaced
            obtain ⟨f, hf, hplaced'⟩ := hfollows.exists_isPlaced hplaced
            rw [List.getLastD_cons] at hlast
            have hmem := (mem_firstCandidates hdocument hroot).2 ⟨hplaced, hstarts⟩
            have hmem' := (mem_take hdocument hcandidates).2 ⟨hmem, haccepts⟩
            use f
            constructor
            · exact (mem_reachFrom hdocument htake).2 ⟨hplaced', e, hmem', es, hfollows, hf.symm⟩
            · rw [hf, hlast]

end Document

/-- What steps reach is in the order of numbers. -/
theorem increasing_reachFrom {ss : List Step} {es : List Located}
    (h : es.Pairwise fun e f => e.node.id < f.node.id) :
  (reachFrom es ss).Pairwise fun e f => e.node.id < f.node.id
  := by
  induction ss generalizing es with
  | nil => exact h
  | cons s ss ih => exact ih (increasing_inOrder _)

theorem increasing_reach (root : Located) (ss : List Step) :
  (reach root ss).Pairwise fun e f => e.node.id < f.node.id
  := by
  cases ss with
  | nil => exact List.pairwise_singleton _ root
  | cons s ss => exact increasing_reachFrom (increasing_inOrder _)

/-- What a path of one step reaches, if the step takes elements in the order in which they were made.
Whatever is to be said of the elements is given with their numbers. -/
theorem Path.map_evaluate_of_taken {α : Type} {p : Path} {s : Step} {document : Node} (f : Node → α)
    {taken : List (Nat × α)} (hsteps : p.steps = [s])
    (htaken : (locatedRoot? document).map (fun root =>
      ((s.firstCandidates root).filter s.accepts).map fun e => (e.node.id, f e.node)) = some taken)
    (hmade : taken.Pairwise (·.1 < ·.1)) :
  (p.evaluate document).map f = taken.map (·.2)
  := by
  obtain ⟨root, hroot, rfl⟩ := Option.map_eq_some_iff.1 htaken
  rw [List.pairwise_map] at hmade
  have htake : s.take (s.firstCandidates root) = (s.firstCandidates root).filter s.accepts :=
    inOrder_eq_self hmade
  simp only [Path.evaluate, hroot, hsteps, reach, reachFrom, htake, List.map_map,
    Function.comp_def]

/-- Each element that such a step takes is reached. -/
theorem Path.exists_mem_evaluate_of_taken {α : Type} {p : Path} {s : Step} {document : Node}
    (f : Node → α) {taken : List (Nat × α)} (hsteps : p.steps = [s])
    (htaken : (locatedRoot? document).map (fun root =>
      ((s.firstCandidates root).filter s.accepts).map fun e => (e.node.id, f e.node)) = some taken)
    (hmade : taken.Pairwise (·.1 < ·.1)) {a : Nat × α} (ha : a ∈ taken) :
  ∃ e ∈ p.evaluate document, f e = a.2
  := by
  have hmem : a.2 ∈ taken.map (·.2) := List.mem_map_of_mem ha
  rw [← Path.map_evaluate_of_taken f hsteps htaken hmade] at hmem
  exact List.mem_map.1 hmem

/-! ### Paths -/

/-- The root element is a child of the document. -/
theorem isPlaced_root {document root : Node} (h : document.rootElement? = some root) :
  IsPlaced document ⟨document.childElements, root⟩
  := ⟨document, document.mem_preorder_self, List.mem_of_head? h, rfl⟩

/-- A document that was read has a root element, and a path reaches in it the elements at the ends
of its chains, each once and in the order in which their nodes were made. Without steps this is the
root element alone. -/
theorem evaluate_parse (p : Path) (text : String) :
  ∃ root, (parse text).rootElement? = some root ∧
    ((p.evaluate (parse text)).map (·.id)).Pairwise (· < ·) ∧
    (∀ e, e ∈ p.evaluate (parse text) ↔ p.Reaches (parse text) root e) ∧
    (p.steps = [] → p.evaluate (parse text) = [root])
  := by
  obtain ⟨root, hroot⟩ := exists_rootElement? text
  have hdocument := distinct_parse text
  generalize parse text = document at hroot hdocument ⊢
  have heval : p.evaluate document
      = (reach ⟨document.childElements, root⟩ p.steps).map (·.node) := by
    simp only [Path.evaluate, locatedRoot?, hroot, Option.map_some]
  refine ⟨root, hroot, ?_, ?_, ?_⟩
  · rw [heval, List.map_map, List.pairwise_map]
    exact increasing_reach _ _
  · intro e
    rw [heval]
    exact mem_reach hdocument (isPlaced_root hroot)
  · intro hsteps
    rw [heval, hsteps]
    rfl

end PageModel.XPath
