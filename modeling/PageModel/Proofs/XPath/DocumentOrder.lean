import PageModel.Proofs.XPath.Writing
import PageModel.XPath.Parse

/-!
# The order of what a path reaches

A path lists the elements that it reaches in the order in which their nodes were made. All paths
keep to the order of a document if its elements were made in that order, and only then
(`evaluate_in_document_order_iff`). Reading puts what stands in a table outside of its cells before
the table, though it is made after it, and there a path lists elements out of order
(`select_misplaced`).
-/

namespace PageModel.XPath

open Html

/-! ### Elements in the tree of the root element -/

/-- The end of a chain is the element that it goes on from, or stands below that. -/
theorem Follows.mem_preorder {document e : Node} {ss : List Step} {fs : List Node}
    (h : Follows document e ss fs) :
  fs.getLastD e ∈ e.preorder
  := by
  induction h with
  | nil e => exact e.mem_preorder_self
  | @cons e f s ss fs hleads _ _ ih =>
      rw [List.getLastD_cons]
      have hbelow : e.IsBelow f := by
        unfold Step.Leads at hleads
        split at hleads
        · exact Node.isBelow_of_mem_children hleads
        · exact hleads
      exact Node.mem_preorder_trans (Node.mem_preorder_iff.2 (.inr hbelow)) ih

theorem Step.Starts.mem_preorder {s : Step} {root e : Node} (h : s.Starts root e) :
  e ∈ root.preorder
  := by
  rw [Node.mem_preorder_iff]
  unfold Step.Starts at h
  split at h
  · exact .inl h
  · exact h

section Document

variable {document root : Node} (hroot : document.rootElement? = some root)

include hroot

/-- What a path reaches is an element of the tree of the root element. -/
theorem Path.Reaches.mem_elementsOrSelf {p : Path} {e : Node} (h : p.Reaches document root e) :
  e ∈ root.elementsOrSelf
  := by
  obtain ⟨es, hchain, rfl⟩ := h
  rw [Node.elementsOrSelf, List.mem_filter]
  generalize p.steps = ss at hchain
  cases hchain with
  | nil => exact ⟨root.mem_preorder_self, (isPlaced_root hroot).isElement⟩
  | cons hstarts haccepts hfollows =>
      obtain ⟨e, rfl, he⟩ := haccepts.exists_isPlaced
      obtain ⟨f, hf, hplaced⟩ := hfollows.exists_isPlaced he
      rw [List.getLastD_cons]
      constructor
      · exact Node.mem_preorder_trans hstarts.mem_preorder hfollows.mem_preorder
      · rw [← hf]
        exact hplaced.isElement

/-- An element of the tree of the root element has its place in the document. -/
theorem exists_isPlaced {e : Node} (he : e ∈ root.elementsOrSelf) :
  ∃ f : Located, f.node = e ∧ IsPlaced document f
  := by
  obtain ⟨hmem, helement⟩ := List.mem_filter.1 he
  rcases Node.mem_preorder_iff.1 hmem with rfl | hbelow
  · exact ⟨_, rfl, isPlaced_root hroot⟩
  · obtain ⟨parent, hparent, hchild⟩ := Node.isBelow_iff.1 hbelow
    use ⟨parent.childElements, e⟩, rfl, parent
    constructor
    · exact Node.mem_preorder_trans (isPlaced_root hroot).mem_preorder hparent
    · exact ⟨List.mem_filter.2 ⟨hchild, helement⟩, rfl⟩

end Document

/-! ### The order of the document -/

section Distinct

variable {document : Node} (hdocument : document.Distinct)

include hdocument

/-- Nodes in the order in which they were made are in the order of the document if no two of them
are in it the other way around. -/
theorem pairwise_precedes_iff {ns : List Node} (hmem : ∀ n ∈ ns, n ∈ document.preorder)
    (hmade : ns.Pairwise (·.id < ·.id)) :
  ns.Pairwise document.Precedes
    ↔ ∀ n ∈ ns, ∀ m ∈ ns, document.Precedes n m → n.id < m.id
  := by
  constructor
  · intro hordered n hn m hm hprecedes
    have hne : n ≠ m := by
      rintro rfl
      exact hdocument.not_precedes hprecedes hprecedes
    rcases Node.pair_sublist_or hn hm hne with h | h
    · exact List.pairwise_iff_forall_sublist.1 hmade h
    · have hback := List.pairwise_iff_forall_sublist.1 hordered h
      exact absurd hback (hdocument.not_precedes hprecedes)
  · intro hagree
    apply hmade.imp_of_mem
    intro n m hn hm hlt
    have hne : n ≠ m := fun h => Nat.lt_irrefl _ (h ▸ hlt)
    rcases Node.pair_sublist_or (hmem n hn) (hmem m hm) hne with h | h
    · exact h
    · exact absurd (hagree m hm n hn h) (Nat.not_lt_of_gt hlt)

/-- A part of a document has its nodes in the order of the document. -/
theorem precedes_iff_of_mem_preorder {root n m : Node} (hroot : root ∈ document.preorder)
    (hn : n ∈ root.preorder) (hm : m ∈ root.preorder) :
  root.Precedes n m ↔ document.Precedes n m
  := by
  constructor
  · exact Node.Precedes.of_mem_preorder hroot
  · intro h
    have hne : n ≠ m := by
      rintro rfl
      exact hdocument.not_precedes h h
    rcases Node.pair_sublist_or hn hm hne with hinner | hinner
    · exact hinner
    · have hback : root.Precedes m n := hinner
      exact absurd (hback.of_mem_preorder hroot) (hdocument.not_precedes h)

/-- The elements of a part of a document were made in order if and only if those that precede others
in the document were made before them. -/
theorem pairwise_elementsOrSelf_iff {root : Node} (hroot : root ∈ document.preorder) :
  root.elementsOrSelf.Pairwise (·.id < ·.id)
    ↔ ∀ e ∈ root.elementsOrSelf, ∀ f ∈ root.elementsOrSelf, document.Precedes e f → e.id < f.id
  := by
  rw [List.pairwise_iff_forall_sublist]
  constructor
  · intro h e he f hf hprecedes
    obtain ⟨he, helement⟩ := List.mem_filter.1 he
    obtain ⟨hf, helement'⟩ := List.mem_filter.1 hf
    have hinner := (precedes_iff_of_mem_preorder hdocument hroot he hf).2 hprecedes
    apply h
    have hfilter := List.Sublist.filter Node.isElement hinner
    rwa [List.filter_cons_of_pos helement, List.filter_cons_of_pos helement'] at hfilter
  · intro h e f hsublist
    have hinner : root.Precedes e f := hsublist.trans List.filter_sublist
    exact h e (hsublist.subset List.mem_cons_self) f
      (hsublist.subset (List.mem_cons_of_mem _ List.mem_cons_self)) (hinner.of_mem_preorder hroot)

end Distinct

/-! ### Paths -/

section Evaluation

variable {document root : Node} (hroot : document.rootElement? = some root)

include hroot

theorem Path.evaluate_eq_map_reach (p : Path) :
  p.evaluate document = (reach ⟨document.childElements, root⟩ p.steps).map (·.node)
  := by
  rw [evaluate, locatedRoot?, hroot]
  rfl

theorem Path.mem_evaluate (hdocument : document.Distinct) (p : Path) {e : Node} :
  e ∈ p.evaluate document ↔ p.Reaches document root e
  := by
  rw [p.evaluate_eq_map_reach hroot]
  exact mem_reach hdocument (isPlaced_root hroot)

theorem Path.mem_elementsOrSelf (hdocument : document.Distinct) (p : Path) {e : Node}
    (he : e ∈ p.evaluate document) :
  e ∈ root.elementsOrSelf
  := ((p.mem_evaluate hroot hdocument).1 he).mem_elementsOrSelf hroot

theorem Path.increasing_evaluate (p : Path) :
  (p.evaluate document).Pairwise (·.id < ·.id)
  := by
  rw [p.evaluate_eq_map_reach hroot, List.pairwise_map]
  exact increasing_reach _ _

/-- A path lists elements in the order of the document if and only if it lists no two of them the
other way around. -/
theorem Path.evaluate_in_order_iff (hdocument : document.Distinct) (p : Path) :
  (p.evaluate document).Pairwise document.Precedes
    ↔ ∀ e ∈ p.evaluate document, ∀ f ∈ p.evaluate document, document.Precedes e f → e.id < f.id
  := by
  apply pairwise_precedes_iff hdocument _ (p.increasing_evaluate hroot)
  intro e he
  apply Node.mem_preorder_trans (isPlaced_root hroot).mem_preorder
  exact List.mem_of_mem_filter (p.mem_elementsOrSelf hroot hdocument he)

end Evaluation

/-! ### Paths to elements anywhere -/

/-- The path to all elements of a document. -/
def everyElement : Path :=
  { steps := [⟨.descendant, .any, []⟩], output := .outerMarkup, outputAxis := .child }

theorem parse_everyElement :
  Path.parse "//*" = .ok everyElement
  := by decide +kernel

/-- A path of one step to anywhere reaches the elements of the tree of the root element that pass the
test of the step. -/
theorem Path.mem_evaluate_descendant {document root e : Node} {p : Path} {test : NodeTest}
    (hroot : document.rootElement? = some root) (hdocument : document.Distinct)
    (hsteps : p.steps = [⟨.descendant, test, []⟩]) :
  e ∈ p.evaluate document ↔ e ∈ root.elementsOrSelf ∧ test.holds e = true
  := by
  rw [p.mem_evaluate hroot hdocument]
  constructor
  · intro hreaches
    refine ⟨hreaches.mem_elementsOrSelf hroot, ?_⟩
    obtain ⟨es, hchain, rfl⟩ := hreaches
    rw [hsteps] at hchain
    cases hchain with
    | cons _ haccepts hfollows =>
        cases hfollows
        obtain ⟨parent, -, -, haccepts⟩ := haccepts
        exact (Bool.and_eq_true_iff.1 haccepts).1
  · rintro ⟨he, htest⟩
    obtain ⟨f, rfl, parent, hparent, hmem, -⟩ := exists_isPlaced hroot he
    have hstarts : Step.Starts ⟨.descendant, test, []⟩ root f.node :=
      Node.mem_preorder_iff.1 (List.mem_of_mem_filter he)
    have haccepts : Step.accepts ⟨.descendant, test, []⟩ ⟨parent.childElements, f.node⟩ = true :=
      Bool.and_eq_true_iff.2 ⟨htest, rfl⟩
    rw [Path.Reaches, hsteps]
    exact ⟨[f.node], .cons hstarts ⟨parent, hparent, hmem, haccepts⟩ (.nil _), rfl⟩

theorem mem_evaluate_everyElement {document root e : Node}
    (hroot : document.rootElement? = some root) (hdocument : document.Distinct) :
  e ∈ everyElement.evaluate document ↔ e ∈ root.elementsOrSelf
  := by
  rw [Path.mem_evaluate_descendant hroot hdocument rfl]
  apply and_iff_left
  rfl

/-! ### The order of what is selected -/

/-- The root element of every text is such that all paths list elements in the order of the document
if and only if the elements of its tree were made in that order. A single path does so if and only
if it reaches no two elements that were made the other way around. What it selects first is the
first of what it selects. -/
theorem evaluate_in_document_order_iff (text : String) :
  ∃ root, (parse text).rootElement? = some root ∧
    ((∀ expression p, Path.parse expression = .ok p →
        (p.evaluate (parse text)).Pairwise (parse text).Precedes)
      ↔ root.elementsOrSelf.Pairwise (·.id < ·.id)) ∧
    ∀ p : Path,
      ((p.evaluate (parse text)).Pairwise (parse text).Precedes
        ↔ ∀ e ∈ p.evaluate (parse text), ∀ f ∈ p.evaluate (parse text),
            (parse text).Precedes e f → e.id < f.id) ∧
      p.select text = (p.selectAll text).head?
  := by
  obtain ⟨root, hroot⟩ := exists_rootElement? text
  have hdocument := distinct_parse text
  have hmem := (isPlaced_root hroot).mem_preorder
  refine ⟨root, hroot, ?_, ?_⟩
  · rw [pairwise_elementsOrSelf_iff hdocument hmem]
    constructor
    · intro hordered
      have hevery := (everyElement.evaluate_in_order_iff hroot hdocument).1
        (hordered "//*" everyElement parse_everyElement)
      simpa only [mem_evaluate_everyElement hroot hdocument] using hevery
    · intro hmade expression p _
      rw [p.evaluate_in_order_iff hroot hdocument]
      intro e he f hf
      exact hmade e (p.mem_elementsOrSelf hroot hdocument he) f
        (p.mem_elementsOrSelf hroot hdocument hf)
  · intro p
    exact ⟨p.evaluate_in_order_iff hroot hdocument, p.select_eq_head? text⟩

/-! ### A text out of order -/

theorem inOrder_pair {e f : Located} (h : f.node.id < e.node.id) :
  inOrder [e, f] = [f, e]
  := by
  have hsorted : [e, f].mergeSort (fun e f => decide (e.node.id ≤ f.node.id)) = [f, e] := by
    simp [List.mergeSort, Nat.not_le_of_gt h]
  rw [inOrder, hsorted, withoutRepetition, if_neg (Nat.ne_of_lt h), withoutRepetition]

/-- The step to the elements with an `id`. -/
def identified : Step :=
  { axis := .descendant, test := .any, predicates := [.attr "id" .present] }

/-- The path that writes the `id` of each of them. -/
def identifiers : Path :=
  { steps := [identified], output := .attr "id", outputAxis := .child }

/-- A step that takes two elements lists that first which was made first. -/
theorem evaluate_of_pair {p : Path} {s : Step} {document : Node} {root e f : Located}
    (hp : p.steps = [s]) (hroot : locatedRoot? document = some root)
    (htaken : (s.firstCandidates root).filter s.accepts = [e, f]) (hid : f.node.id < e.node.id) :
  p.evaluate document = [f.node, e.node]
  := by
  have htake : s.take (s.firstCandidates root) = [f, e] := by
    rw [Step.take, htaken, inOrder_pair hid]
  simp only [Path.evaluate, hroot, hp, reach, reachFrom, htake, List.map_cons, List.map_nil]

/-- The paragraph goes before the table in which it stands in the text, but it is made after it, and
is selected after it. -/
theorem select_misplaced :
  (parse "<table id=a><p id=b>").elementsOrSelf.map (·.name)
      = ["html", "head", "body", "p", "table"] ∧
    Path.parse "//*[@id]/@id" = .ok identifiers ∧
    ¬ (identifiers.evaluate (parse "<table id=a><p id=b>")).Pairwise
      (parse "<table id=a><p id=b>").Precedes ∧
    identifiers.selectAll "<table id=a><p id=b>" = ["a", "b"] ∧
    identifiers.select "<table id=a><p id=b>" = some "a"
  := by
  refine ⟨by decide +kernel, by decide +kernel, ?_⟩
  have htaken : ((locatedRoot? (parse "<table id=a><p id=b>")).map fun root =>
      ((identified.firstCandidates root).filter identified.accepts).map fun e =>
        (e.node.id, identifiers.render e.node)) = some [(5, ["b"]), (4, ["a"])] := by
    decide +kernel
  have hnumbers : ¬ [4, 5].Sublist ((parse "<table id=a><p id=b>").preorder.map (·.id)) := by
    decide +kernel
  obtain ⟨root, hroot, hmap⟩ := Option.map_eq_some_iff.1 htaken
  obtain ⟨e, _, hcandidates, he, htail⟩ := List.map_eq_cons_iff.1 hmap
  obtain ⟨f, _, rfl, hf, hnil⟩ := List.map_eq_cons_iff.1 htail
  rw [List.map_eq_nil_iff.1 hnil] at hcandidates
  obtain ⟨heid, herender⟩ := Prod.mk.inj he
  obtain ⟨hfid, hfrender⟩ := Prod.mk.inj hf
  have hevaluate : identifiers.evaluate (parse "<table id=a><p id=b>") = [f.node, e.node] :=
    evaluate_of_pair rfl hroot hcandidates (by omega)
  have hall : identifiers.selectAll "<table id=a><p id=b>" = ["a", "b"] := by
    rw [Path.selectAll, Path.selectAllIn, hevaluate, List.flatMap_cons, List.flatMap_singleton,
      hfrender, herender]
    rfl
  refine ⟨?_, hall, ?_⟩
  · rw [hevaluate, List.pairwise_pair]
    intro hprecedes
    apply hnumbers
    rw [← hfid, ← heid]
    exact hprecedes.map (·.id)
  · rw [Path.select_eq_head?, hall]
    rfl

end PageModel.XPath
