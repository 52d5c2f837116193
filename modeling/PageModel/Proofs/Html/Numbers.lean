import PageModel.Html.Document
import PageModel.Proofs.Html.Tree

/-!
# Numbers of nodes are distinct

A node of the table that is in the tree of the document has the document above it, at a distance
that is determined by the node, since nothing is above the document. Two places of the tree with one
number would be at one distance, so the ways up from them would part below some node, which would be
the parent of two nodes with one number. Hence no number occurs twice in a document.
-/

namespace PageModel.Html

/-! ### Ways up -/

namespace Cells

variable {t : Cells}

/-- The node some parents above a node. -/
def above? (t : Cells) : (distance : Nat) → Nat → Option Nat
  | 0, i => some i
  | distance + 1, i => (t.parent? i).bind (t.above? distance)

theorem above?_add (m n i : Nat) :
  t.above? (m + n) i = (t.above? m i).bind (t.above? n)
  := by
  induction m generalizing i with
  | zero => rw [Nat.zero_add, above?, Option.bind_some]
  | succ m ih =>
      rw [Nat.succ_add, above?, above?, Option.bind_assoc]
      congr
      funext p
      exact ih p

/-- Nothing is above the document. -/
theorem Linked.above?_top (h : Linked t) (n : Nat) :
  t.above? (n + 1) 0 = none
  := by
  rw [above?, h.top, Option.bind_none]

/-- The document is above a node at one distance. -/
theorem Linked.distance_unique (h : Linked t) {m n i : Nat} (hm : t.above? m i = some 0)
    (hn : t.above? n i = some 0) :
  m = n
  := by
  have hle : ∀ {m n : Nat}, t.above? m i = some 0 → t.above? n i = some 0 → n ≤ m := by
    intro m n hm hn
    apply Nat.le_of_not_lt
    intro hlt
    obtain ⟨k, rfl⟩ := Nat.exists_eq_add_of_lt hlt
    rw [Nat.add_assoc, above?_add, hm, Option.bind_some, h.above?_top] at hn
    cases hn
  exact Nat.le_antisymm (hle hn hm) (hle hm hn)

end Cells

/-! ### Trees of a table -/

namespace Arena

variable {t : Arena}

/-- The numbers in a tree of the table. -/
def numbers (t : Arena) (depth i : Nat) : List Nat :=
  (t.toNode depth i).preorder.map (·.id)

theorem numbers_zero (i : Nat) :
  t.numbers 0 i = [i]
  := rfl

theorem numbers_succ (depth i : Nat) :
  t.numbers (depth + 1) i = i :: (t.children i).toList.flatMap (t.numbers depth)
  := by
  rw [numbers, Node.preorder_eq, List.map_cons, toNode, List.flatMap_map, List.map_flatMap]
  rfl

/-- The root of a tree of the table is above each node in it. -/
theorem exists_above? {depth i j : Nat} (h : j ∈ t.numbers depth i) :
  ∃ n, t.cells.above? n j = some i
  := by
  induction depth generalizing i with
  | zero =>
      rw [numbers_zero, List.mem_singleton] at h
      subst h
      exact ⟨0, rfl⟩
  | succ depth ih =>
      rw [numbers_succ, List.mem_cons, List.mem_flatMap] at h
      rcases h with rfl | ⟨c, hc, hj⟩
      · exact ⟨0, rfl⟩
      · obtain ⟨n, hn⟩ := ih hj
        have hparent : t.cells.parent? c = some i := t.linked.parent_eq (Array.mem_toList_iff.1 hc)
        refine ⟨n + 1, ?_⟩
        rw [Cells.above?_add, hn, Option.bind_some, Cells.above?, hparent]
        rfl

/-- No number occurs twice in the tree of a node that is below the document. -/
theorem nodup_numbers (depth : Nat) {i m : Nat} (hi : t.cells.above? m i = some 0) :
  (t.numbers depth i).Nodup
  := by
  induction depth generalizing i m with
  | zero =>
      rw [numbers_zero]
      exact List.nodup_singleton i
  | succ depth ih =>
      have hup : ∀ c ∈ (t.children i).toList, ∀ {j n : Nat}, t.cells.above? n j = some c →
          t.cells.above? (n + (m + 1)) j = some 0 := by
        intro c hc j n hn
        have hparent : t.cells.parent? c = some i := t.linked.parent_eq (Array.mem_toList_iff.1 hc)
        rw [Cells.above?_add, hn, Option.bind_some, Cells.above?, hparent, Option.bind_some, hi]
      rw [numbers_succ]
      apply List.nodup_cons.2
      constructor
      · intro hmem
        obtain ⟨c, hc, hmem⟩ := List.mem_flatMap.1 hmem
        obtain ⟨n, hn⟩ := exists_above? hmem
        have := t.linked.distance_unique hi (hup c hc hn)
        omega
      · apply List.nodup_flatMap.2
        constructor
        · intro c hc
          exact ih (hup c hc (rfl : t.cells.above? 0 c = some c))
        · apply (t.linked.nodup i).imp_of_mem
          intro c c' hc hc' hne j hj hj'
          obtain ⟨n, hn⟩ := exists_above? hj
          obtain ⟨n', hn'⟩ := exists_above? hj'
          have hdistance := t.linked.distance_unique (hup c hc hn) (hup c' hc' hn')
          obtain rfl : n = n' := by omega
          rw [hn] at hn'
          exact hne (Option.some_inj.1 hn')

theorem distinct_document (t : Arena) :
  t.document.Distinct
  := nodup_numbers t.size (rfl : t.cells.above? 0 0 = some 0)

end Arena

/-- No number occurs twice in a document. -/
theorem distinct_parse (text : String) :
  (parse text).Distinct
  := (arenaOf text).distinct_document

end PageModel.Html
