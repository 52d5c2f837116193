import PageModel.Proofs.Html.Numbers
import PageModel.XPath.Evaluate

/-!
# What the predicates of a step say

A predicate about a place says how many siblings before or after an element pass the test of the step
and the predicates before it (`Predicate.holdsAmong`), which is a recursion over the predicates
(`Step.passes`). A step narrows a list of siblings down instead. The list that is left is always the
list of the siblings that pass (`foldl_narrow_eq`), so that a step accepts an element if and only if
all of its predicates hold of it, whether or not one of them is about a place.
-/

namespace PageModel.XPath

open Html

variable {siblings : List Node} {passed : Node → Bool} {e : Node}

/-! ### Predicates among siblings -/

/-- The siblings before an element. -/
def earlier (siblings : List Node) (e : Node) : List Node :=
  siblings.takeWhile fun f => f.id != e.id

/-- The siblings after an element. -/
def later (siblings : List Node) (e : Node) : List Node :=
  (siblings.dropWhile fun f => f.id != e.id).tail

/-- Whether a predicate holds of an element among the siblings that pass what comes before the
predicate. Places are counted from one. -/
def Predicate.holdsAmong (passed : Node → Bool) (siblings : List Node) (e : Node) :
    Predicate → Bool
  | .position n => (earlier siblings e).countP passed == n - 1
  | .last => !(later siblings e).any passed
  | .attr name test => test.holds (e.attr? name)

/-- Whether an element passes the test and the first predicates of a step. -/
def Step.passes (s : Step) (siblings : List Node) : (predicates : Nat) → Node → Bool
  | 0, e => s.test.holds e
  | i + 1, e =>
      s.passes siblings i e &&
        s.predicates[i]?.all fun p => p.holdsAmong (s.passes siblings i) siblings e

/-! ### Before and after -/

theorem earlier_cons_self (e : Node) (siblings : List Node) :
  earlier (e :: siblings) e = []
  := by
  rw [earlier, List.takeWhile_cons_of_neg]
  simp

theorem earlier_cons_of_ne {f : Node} (h : f.id ≠ e.id) :
  earlier (f :: siblings) e = f :: earlier siblings e
  := by
  rw [earlier, List.takeWhile_cons_of_pos]
  · rfl
  · exact bne_iff_ne.2 h

theorem later_cons_self (e : Node) (siblings : List Node) :
  later (e :: siblings) e = siblings
  := by
  rw [later, List.dropWhile_cons_of_neg]
  · rfl
  · simp

theorem later_cons_of_ne {f : Node} (h : f.id ≠ e.id) :
  later (f :: siblings) e = later siblings e
  := by
  rw [later, List.dropWhile_cons_of_pos]
  · rfl
  · exact bne_iff_ne.2 h

/-- An element has a number of its own among the siblings after it. -/
theorem ne_of_nodup_cons {f : Node} (h : ((f :: siblings).map (·.id)).Nodup) (he : e ∈ siblings) :
  f.id ≠ e.id
  := by
  rw [List.map_cons, List.nodup_cons] at h
  intro hid
  exact h.1 (hid ▸ List.mem_map_of_mem he)

/-! ### Narrowing siblings down -/

/-- Of the siblings that pass, the one in a given place is the one before which as many pass. -/
theorem filter_place_eq (h : (siblings.map (·.id)).Nodup) (k : Nat) :
  ((siblings.filter passed)[k]?).toList
    = siblings.filter fun e => passed e && (earlier siblings e).countP passed == k
  := by
  induction siblings generalizing k with
  | nil => rfl
  | cons f siblings ih =>
      have hrest (k : Nat) (hk : ∀ e ∈ siblings, (earlier (f :: siblings) e).countP passed
          = (earlier siblings e).countP passed + k) (n : Nat) :
          (siblings.filter fun e =>
            passed e && (earlier (f :: siblings) e).countP passed == n + k)
          = ((siblings.filter passed)[n]?).toList := by
        rw [ih (List.nodup_cons.1 h).2]
        apply List.filter_congr
        intro e he
        rw [hk e he]
        simp only [beq_eq_decide, Nat.add_right_cancel_iff]
      have hcount (e : Node) (he : e ∈ siblings) : (earlier (f :: siblings) e).countP passed
          = (earlier siblings e).countP passed + if passed f then 1 else 0 := by
        rw [earlier_cons_of_ne (ne_of_nodup_cons h he), List.countP_cons]
      cases hf : passed f with
      | false =>
          simp only [hf, Bool.false_eq_true, if_false] at hcount
          rw [List.filter_cons_of_neg (by simp [hf]), List.filter_cons_of_neg (by simp [hf])]
          exact (hrest 0 hcount k).symm
      | true =>
          simp only [hf, if_true] at hcount
          rw [List.filter_cons_of_pos hf]
          cases k with
          | zero =>
              have hnone : (siblings.filter fun e =>
                  passed e && (earlier (f :: siblings) e).countP passed == 0) = [] := by
                apply List.filter_eq_nil_iff.2
                intro e he
                simp [hcount e he]
              rw [List.filter_cons_of_pos (by simp [hf, earlier_cons_self]), hnone]
              rfl
          | succ k =>
              rw [List.filter_cons_of_neg (by simp [earlier_cons_self])]
              exact (hrest 1 hcount k).symm

/-- Of the siblings that pass, the last is the one after which none passes. -/
theorem filter_last_eq (h : (siblings.map (·.id)).Nodup) :
  (siblings.filter passed).getLast?.toList
    = siblings.filter fun e => passed e && !(later siblings e).any passed
  := by
  induction siblings with
  | nil => rfl
  | cons f siblings ih =>
      have hrest : (siblings.filter fun e => passed e && !(later (f :: siblings) e).any passed)
          = (siblings.filter passed).getLast?.toList := by
        rw [ih (List.nodup_cons.1 h).2]
        apply List.filter_congr
        intro e he
        rw [later_cons_of_ne (ne_of_nodup_cons h he)]
      cases hf : passed f with
      | false =>
          rw [List.filter_cons_of_neg (by simp [hf]), List.filter_cons_of_neg (by simp [hf]), hrest]
      | true =>
          rw [List.filter_cons_of_pos hf]
          cases hany : siblings.any passed with
          | false =>
              have hnone : siblings.filter passed = [] := by
                apply List.filter_eq_nil_iff.2
                intro e he
                exact List.any_eq_false.1 hany e he
              rw [List.filter_cons_of_pos (by simp [hf, later_cons_self, hany]), hrest, hnone]
              rfl
          | true =>
              have hsome : siblings.filter passed ≠ [] := by
                obtain ⟨e, he, hpasses⟩ := List.any_eq_true.1 hany
                exact List.ne_nil_of_mem (List.mem_filter.2 ⟨he, hpasses⟩)
              rw [List.filter_cons_of_neg (by simp [later_cons_self, hany]), hrest,
                List.getLast?_cons_of_ne_nil hsome]

/-- A predicate leaves those of the siblings of which it holds among them. -/
theorem narrow_filter_eq (h : (siblings.map (·.id)).Nodup) (p : Predicate) :
  p.narrow (siblings.filter passed)
    = siblings.filter fun e => passed e && p.holdsAmong passed siblings e
  := by
  cases p with
  | position n => exact filter_place_eq h (n - 1)
  | last => exact filter_last_eq h
  | attr name test =>
      rw [Predicate.narrow, List.filter_filter]
      apply List.filter_congr
      intro e _
      exact Bool.and_comm _ _

/-- The siblings that are left after some predicates are those that pass them. -/
theorem foldl_narrow_eq (h : (siblings.map (·.id)).Nodup) (s : Step) (i : Nat) :
  (s.predicates.take i).foldl Predicate.narrow (siblings.filter s.test.holds)
    = siblings.filter (s.passes siblings i)
  := by
  induction i with
  | zero => rfl
  | succ i ih =>
      rw [List.take_add_one, List.foldl_append, ih]
      cases hp : s.predicates[i]? with
      | none =>
          apply List.filter_congr
          intro e _
          rw [Step.passes, hp, Option.all_none, Bool.and_true]
      | some p =>
          rw [Option.toList_some, List.foldl_cons, List.foldl_nil, narrow_filter_eq h]
          apply List.filter_congr
          intro e _
          rw [Step.passes, hp, Option.all_some]

/-- An element passes if and only if it passes the test and each of the predicates holds of it. -/
theorem Step.passes_iff (s : Step) (siblings : List Node) (e : Node) (i : Nat) :
  s.passes siblings i e = true ↔ s.test.holds e = true ∧
    ∀ j < i, ∀ p : Predicate, s.predicates[j]? = some p →
      p.holdsAmong (s.passes siblings j) siblings e = true
  := by
  induction i with
  | zero => simp [Step.passes]
  | succ i ih =>
      rw [Step.passes, Bool.and_eq_true, ih, Option.all_eq_true, and_assoc]
      apply and_congr_right
      intro _
      constructor
      · rintro ⟨hbefore, hlast⟩ j hj p hp
        rcases Nat.lt_succ_iff_lt_or_eq.1 hj with hj | rfl
        · exact hbefore j hj p hp
        · exact hlast p hp
      · intro h
        exact ⟨fun j hj => h j (Nat.lt_succ_of_lt hj), h i (Nat.lt_succ_self i)⟩

/-- An element passes all predicates, whether or not one of them is about a place, if and only if it
passes the test and each of them holds of it. -/
theorem Step.passes_length_iff (s : Step) (siblings : List Node) (e : Node) :
  s.passes siblings s.predicates.length e = true ↔ s.test.holds e = true ∧
    ∀ (i : Nat) (p : Predicate), s.predicates[i]? = some p →
      p.holdsAmong (s.passes siblings i) siblings e = true
  := by
  rw [s.passes_iff]
  apply and_congr_right
  intro _
  constructor
  · intro h i p hp
    exact h i (List.getElem?_eq_some_iff.1 hp).1 p hp
  · intro h i _ p hp
    exact h i p hp

/-! ### Steps -/

/-- Elements with one number are one among siblings with numbers of their own. -/
theorem any_id_filter_iff (h : (siblings.map (·.id)).Nodup) (he : e ∈ siblings) :
  ((siblings.filter passed).any fun n => n.id == e.id) = true ↔ passed e = true
  := by
  rw [List.any_eq_true]
  constructor
  · rintro ⟨n, hn, hid⟩
    obtain ⟨hmem, hpassed⟩ := List.mem_filter.1 hn
    rwa [← List.inj_on_of_nodup_map h hmem he (eq_of_beq hid)]
  · intro hpassed
    exact ⟨e, List.mem_filter.2 ⟨he, hpassed⟩, beq_self_eq_true _⟩

/-- A predicate that is not about a place holds of an element whatever its siblings are. -/
theorem Predicate.holdsAmong_eq_holds {p : Predicate} (hp : p.isPositional = false) :
  p.holdsAmong passed siblings e = p.holds e
  := by
  cases p with
  | position n => cases hp
  | last => cases hp
  | attr name test => rfl

/-- Looking at the element alone and narrowing its siblings down come to the same: a step accepts an
element that passes all of its predicates. -/
theorem Step.accepts_eq_passes (h : (siblings.map (·.id)).Nodup) (he : e ∈ siblings) (s : Step) :
  s.accepts ⟨siblings, e⟩ = s.passes siblings s.predicates.length e
  := by
  rw [Bool.eq_iff_iff, Step.accepts, Bool.and_eq_true]
  cases hplace : s.predicates.any Predicate.isPositional with
  | true =>
      have hleft := foldl_narrow_eq h s s.predicates.length
      rw [List.take_length] at hleft
      rw [if_pos rfl, hleft, any_id_filter_iff h he]
      constructor
      · exact And.right
      · intro hpasses
        exact ⟨((s.passes_length_iff siblings e).1 hpasses).1, hpasses⟩
  | false =>
      rw [if_neg Bool.false_ne_true, s.passes_length_iff, List.all_eq_true]
      apply and_congr_right
      intro _
      have hholds (p : Predicate) (hp : p ∈ s.predicates) (i : Nat) :
          p.holdsAmong (s.passes siblings i) siblings e = p.holds e := by
        apply Predicate.holdsAmong_eq_holds
        exact Bool.eq_false_iff.2 (List.any_eq_false.1 hplace p hp)
      constructor
      · intro hall i p hp
        have hmem := List.mem_of_getElem? hp
        rw [hholds p hmem]
        exact hall p hmem
      · intro hall p hp
        obtain ⟨i, hi⟩ := List.getElem?_of_mem hp
        rw [← hholds p hp i]
        exact hall i p hi

/-! ### At most one sibling -/

theorem length_narrow_le (group : List Node) (p : Predicate) :
  (p.narrow group).length ≤ group.length
  := by
  cases p with
  | position n =>
      rw [Predicate.narrow]
      cases hn : group[n - 1]? with
      | none => exact Nat.zero_le _
      | some e => exact List.length_pos_of_mem (List.mem_of_getElem? hn)
  | last =>
      rw [Predicate.narrow]
      cases hlast : group.getLast? with
      | none => exact Nat.zero_le _
      | some e => exact List.length_pos_of_mem (List.mem_of_getLast? hlast)
  | attr name test => exact List.length_filter_le _ _

theorem length_narrow_le_one {p : Predicate} (hp : p.isPositional = true) (group : List Node) :
  (p.narrow group).length ≤ 1
  := by
  cases p with
  | position n => exact Option.length_toList_le
  | last => exact Option.length_toList_le
  | attr name test => cases hp

/-- Predicates leave one sibling at most, once one of them is about a place. -/
theorem length_foldl_narrow_le_one {ps : List Predicate}
    (hplace : ps.any Predicate.isPositional = true) (group : List Node) :
  (ps.foldl Predicate.narrow group).length ≤ 1
  := by
  have hle (ps : List Predicate) (group : List Node) :
      (ps.foldl Predicate.narrow group).length ≤ group.length := by
    induction ps generalizing group with
    | nil => exact Nat.le_refl _
    | cons p ps ih => exact Nat.le_trans (ih _) (length_narrow_le group p)
  induction ps generalizing group with
  | nil => cases hplace
  | cons p ps ih =>
      rw [List.any_cons, Bool.or_eq_true] at hplace
      rcases hplace with hp | hps
      · exact Nat.le_trans (hle ps _) (length_narrow_le_one hp group)
      · exact ih hps _

/-- A step with a predicate about a place accepts one of the children of a node at most. -/
theorem Step.eq_of_accepts {f : Node} (h : (siblings.map (·.id)).Nodup) {s : Step}
    (hplace : s.predicates.any Predicate.isPositional = true) (he : e ∈ siblings)
    (hf : f ∈ siblings) (hacceptsE : s.accepts ⟨siblings, e⟩ = true)
    (hacceptsF : s.accepts ⟨siblings, f⟩ = true) :
  e = f
  := by
  rw [Step.accepts_eq_passes h he] at hacceptsE
  rw [Step.accepts_eq_passes h hf] at hacceptsF
  have hone := length_foldl_narrow_le_one hplace (siblings.filter s.test.holds)
  have hleft := foldl_narrow_eq h s s.predicates.length
  rw [List.take_length] at hleft
  rw [hleft] at hone
  obtain ⟨i, hi, rfl⟩ := List.getElem_of_mem (List.mem_filter.2 ⟨he, hacceptsE⟩)
  obtain ⟨j, hj, rfl⟩ := List.getElem_of_mem (List.mem_filter.2 ⟨hf, hacceptsF⟩)
  obtain rfl : i = j := by omega
  rfl

/-! ### Documents -/

theorem nodup_childElements {document parent : Node} (hdocument : document.Distinct)
    (hparent : parent ∈ document.preorder) :
  (parent.childElements.map (·.id)).Nodup
  := by
  have hchildren : parent.childElements.Sublist document.preorder :=
    (List.filter_sublist.trans parent.children_sublist).trans (Node.preorder_sublist hparent)
  exact List.Nodup.sublist (hchildren.map _) hdocument

/-- In the document of a text, a step accepts a child of a node if and only if the element passes the
test of the step and every predicate holds of it: a test of an attribute of the element itself, a
place if as many siblings before the element as the place has before it pass the test and the
predicates before that one, and the last place if no sibling after the element does. So a step with a
predicate about a place accepts one child of a node at most. -/
theorem Step.accepts_iff_predicates_hold (text : String) {parent e : Node}
    (hparent : parent ∈ (parse text).preorder) (he : e ∈ parent.childElements) (s : Step) :
  (s.accepts ⟨parent.childElements, e⟩ = true ↔ s.test.holds e = true ∧
    ∀ (i : Nat) (p : Predicate), s.predicates[i]? = some p →
      p.holdsAmong (s.passes parent.childElements i) parent.childElements e = true) ∧
  (s.predicates.any Predicate.isPositional = true →
    s.accepts ⟨parent.childElements, e⟩ = true →
    ∀ f ∈ parent.childElements, s.accepts ⟨parent.childElements, f⟩ = true → f = e)
  := by
  have hnodup := nodup_childElements (distinct_parse text) hparent
  constructor
  · rw [Step.accepts_eq_passes hnodup he]
    exact s.passes_length_iff _ e
  · intro hplace hacceptsE f hf hacceptsF
    exact Step.eq_of_accepts hnodup hplace hf he hacceptsF hacceptsE

/-- The step to the second of the items of a class. -/
def secondOfClass : Step :=
  { axis := .child, test := .tag "li", predicates := [.attr "class" (.equals "a"), .position 2] }

/-- Of the two items before the one that is accepted, one is of the class. -/
theorem secondOfClass_accepts :
  ∃ parent ∈ (parse "<ul><li class=a>1<li>2<li class=a>3</ul>").preorder,
    ∃ e ∈ parent.childElements, secondOfClass.accepts ⟨parent.childElements, e⟩ = true ∧
      (earlier parent.childElements e).length = 2 ∧
      (earlier parent.childElements e).countP (secondOfClass.passes parent.childElements 1) = 1
  := by
  have haccepted : ((parse "<ul><li class=a>1<li>2<li class=a>3</ul>").preorder.any fun parent =>
      parent.childElements.any fun e => secondOfClass.accepts ⟨parent.childElements, e⟩ &&
        (earlier parent.childElements e).length == 2) = true := by
    decide +kernel
  obtain ⟨parent, hparent, hchild⟩ := List.any_eq_true.1 haccepted
  obtain ⟨e, he, h⟩ := List.any_eq_true.1 hchild
  obtain ⟨haccepts, hlength⟩ := Bool.and_eq_true_iff.1 h
  refine ⟨parent, hparent, e, he, haccepts, eq_of_beq hlength, ?_⟩
  obtain ⟨hiff, -⟩ := Step.accepts_iff_predicates_hold _ hparent he secondOfClass
  exact eq_of_beq ((hiff.1 haccepts).2 1 (.position 2) rfl)

end PageModel.XPath
