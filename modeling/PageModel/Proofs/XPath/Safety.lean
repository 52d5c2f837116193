import Mathlib.Data.Nat.PSub
import PageModel.Proofs.XPath.Cursor.Path
import PageModel.Schema
import PageModel.UrlRule

/-!
# Reading is safe

Whatever the text, a cursor that reads a path from it comes to an end, and it has been between characters
all the time. What it comes to is the path that the text denotes, or the fault (`Path.parse_by_cursor`).
A place in a path is counted from one by the grammar, so one can be taken from it whenever siblings are
narrowed down.
-/

namespace PageModel.XPath

open Html

/-! ### Places counted from one -/

/-- Steps whose predicates count places from one. -/
def Step.CountsFromOne (s : Step) : Prop :=
  ∀ n, .position n ∈ s.predicates → 1 ≤ n

theorem IsPredicates.one_le {cs : List Char} {ps : List Predicate} {n : Nat}
    (h : IsPredicates cs ps) (hn : .position n ∈ ps) :
  1 ≤ n
  := by
  induction h with
  | nil => cases hn
  | cons _ htext _ _ ih =>
      rcases List.mem_cons.1 hn with rfl | hn
      · cases htext with
        | position hdigits => exact hdigits.pos
      · apply ih hn

theorem IsPart.countsFromOne {isFirst : Bool} {cs : List Char} {step : Step}
    (h : IsPart isFirst cs (.step step)) :
  step.CountsFromOne
  := by
  cases h with
  | step _ _ htexts =>
      intro n hn
      apply htexts.one_le hn

theorem IsParts.countsFromOne {isFirst : Bool} {cs : List Char} {path : Path}
    (h : IsParts isFirst cs path) :
  ∀ step ∈ path.steps, step.CountsFromOne
  := by
  induction h with
  | terminal => rintro step ⟨⟩
  | last htext _ =>
      intro step hstep
      obtain rfl := List.mem_singleton.1 hstep
      apply htext.countsFromOne
  | step htext _ _ ih =>
      intro step hstep
      rcases List.mem_cons.1 hstep with rfl | hstep
      · apply htext.countsFromOne
      · apply ih step hstep

theorem IsPath.countsFromOne {cs : List Char} {path : Path} (h : IsPath cs path) :
  ∀ step ∈ path.steps, step.CountsFromOne
  := by
  cases h with
  | parts _ hparts => apply hparts.countsFromOne

/-! ### One taken from a place -/

/-- The elements of a list that a predicate leaves, unless one would have to be taken from zero. -/
def Predicate.narrow? (group : List Node) : Predicate → Option (List Node)
  | .position n => n.ppred.map fun i => group[i]?.toList
  | p => some (p.narrow group)

/-- Whether a step takes an element, unless one would have to be taken from zero to say so. -/
def Step.accepts? (s : Step) (e : Located) : Option Bool :=
  if s.test.holds e.node then
    if s.predicates.any Predicate.isPositional then
      (s.predicates.foldlM Predicate.narrow? (e.siblings.filter s.test.holds)).map
        fun group => group.any fun n => n.id == e.node.id
    else
      some (s.predicates.all (Predicate.holds e.node))
  else
    some false

theorem Predicate.narrow?_eq {p : Predicate} (h : ∀ n, p = .position n → 1 ≤ n)
    (group : List Node) :
  p.narrow? group = some (p.narrow group)
  := by
  cases p with
  | position n =>
      obtain ⟨i, rfl⟩ := Nat.exists_eq_add_of_le' (h n rfl)
      rfl
  | last => rfl
  | attr name test => rfl

example (group : List Node) : (Predicate.position 0).narrow? group = none := rfl

theorem foldlM_narrow?_eq {ps : List Predicate} (h : ∀ n, .position n ∈ ps → 1 ≤ n)
    (group : List Node) :
  ps.foldlM Predicate.narrow? group = some (ps.foldl Predicate.narrow group)
  := by
  induction ps generalizing group with
  | nil => rfl
  | cons p ps ih =>
      have hp : ∀ n, p = .position n → 1 ≤ n := by
        rintro n rfl
        apply h n List.mem_cons_self
      rw [List.foldlM_cons, Predicate.narrow?_eq hp, List.foldl_cons]
      apply ih
      intro n hn
      apply h n (List.mem_cons_of_mem p hn)

theorem Step.CountsFromOne.accepts?_eq {s : Step} (h : s.CountsFromOne) (e : Located) :
  s.accepts? e = some (s.accepts e)
  := by
  unfold Step.accepts? Step.accepts
  rw [foldlM_narrow?_eq h]
  cases s.test.holds e.node with
  | false => rfl
  | true => cases s.predicates.any Predicate.isPositional <;> rfl

/-! ### Faults -/

variable {expression : String}

theorem compileRegion_of_fault {f : Fault} (h : Path.parse expression = .error f) :
  compileRegion (some expression) = .error (.selector expression (.path f))
  := by
  rw [compileRegion, Selector.ofPath, h]

theorem build_of_fault {f : Fault} (h : Path.parse expression = .error f) {r : FieldRuleSpec}
    (hkind : r.kind = .xpath ∨ r.kind = .xpath2) (hexpression : r.expression = expression) :
  r.build = .error (.selector expression (.path f))
  := by
  have hselector : Selector.build r.kind expression = .error (.path f) := by
    rcases hkind with hkind | hkind <;> rw [hkind, Selector.build, Selector.ofPath, h]
  rw [FieldRuleSpec.build, hexpression, hselector]

/-- The reading of any text as a path: it ends, with the cursor between characters all the time, a round
that calls for another takes some of the text away, a fault is reported with the whole text and with a
place between its characters, and in a path every place is counted from one. -/
theorem Path.parse_by_cursor (expression : String) :
  (∃ c : Cursor,
      ((Path.parse expression).mapError .fault, c)
        ∈ (Cursor.path expression.toList).runFrom ⟨0, []⟩ ∧
      ∀ n ∈ c.pos :: c.past, (String.Pos.Raw.mk n).IsValid expression) ∧
    (∀ read, Cursor.Progresses expression.toList
      (Cursor.predicateRound expression.toList read)) ∧
    (∀ steps, Cursor.Progresses expression.toList
      (Cursor.partRound expression.toList steps)) ∧
    (∀ f, Path.parse expression = .error f →
      (String.Pos.Raw.mk f.offset).IsValid expression ∧
      compileRegion (some expression) = .error (.selector expression (.path f)) ∧
      (∀ r : FieldRuleSpec, r.kind = .xpath ∨ r.kind = .xpath2 → r.expression = expression →
        r.build = .error (.selector expression (.path f))) ∧
      (Error.selector expression (.path f)).message
        = "Invalid selector '" ++ expression ++ "': " ++
            (f.reason.message ++ " at offset " ++ toString f.offset)) ∧
    (∀ p, Path.parse expression = .ok p → ∀ step ∈ p.steps,
      (∀ n, .position n ∈ step.predicates → 1 ≤ n) ∧
      ∀ e : Located, step.accepts? e = some (step.accepts e))
  := by
  obtain ⟨c, hrun, hoffset, hboundary⟩ := Cursor.runFrom_path expression
  have hvalid : ∀ n ∈ c.pos :: c.past, (String.Pos.Raw.mk n).IsValid expression := by
    intro n hn
    apply isBoundary_iff_isValid.1 (hboundary n hn)
  refine ⟨⟨c, hrun, hvalid⟩, Cursor.progresses_predicateRound _, Cursor.progresses_partRound _,
    ?fault, ?path⟩
  case fault =>
    intro f hf
    refine ⟨?_, compileRegion_of_fault hf, fun r => build_of_fault hf, rfl⟩
    rw [hoffset f hf]
    apply hvalid c.pos List.mem_cons_self
  case path =>
    intro p hp step hstep
    have hcounts := (isPath_of_parse hp).countsFromOne step hstep
    exact ⟨hcounts, hcounts.accepts?_eq⟩

end PageModel.XPath
