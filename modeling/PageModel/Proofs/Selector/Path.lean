import PageModel.Proofs.XPath.Writing
import PageModel.Selector

/-!
# What location paths select

A selector of a location path stops at the first element that writes something, and what that element
writes first is what all elements together write first. Elements that write nothing, such as those
with blank text or without the attribute that is asked for, are passed over on the way.
-/

namespace PageModel

open XPath

variable {expression : String} {s : Selector}

/-- A selector of a location path writes what the path selects. -/
theorem exists_path_of_ofPath (h : Selector.ofPath expression = .ok s) :
  ∃ p, Path.parse expression = .ok p ∧ s = ⟨expression, .path p⟩
  := by
  unfold Selector.ofPath at h
  split at h
  · next p hp => exact ⟨p, hp, (Except.ok.inj h).symm⟩
  · cases h

theorem ofPath_of_parse {p : Path} (h : Path.parse expression = .ok p) :
  Selector.ofPath expression = .ok ⟨expression, .path p⟩
  := by
  rw [Selector.ofPath, h]

/-- A selector of a location path selects first what is the first of all that it selects, and it
selects nothing first if and only if it selects nothing at all. Elements that write nothing are passed
over, and with the first one that writes something, one text or several, writing ends, whatever
follows. -/
theorem Selector.select_path_eq_head?_selectAll (h : Selector.ofPath expression = .ok s)
    (text : String) :
  s.select text = (s.selectAll text).head? ∧
    (s.select text = none ↔ s.selectAll text = []) ∧
    ∃ p, Path.parse expression = .ok p ∧ s = ⟨expression, .path p⟩ ∧
      ∀ before e after, p.evaluate (Html.parse text) = before ++ e :: after →
        (∀ f ∈ before, p.render f = []) → p.render e ≠ [] →
          s.select text = (p.render e).head? ∧
            ∀ others, p.writeUpTo 1 [] (before ++ e :: others) = p.render e
  := by
  obtain ⟨p, hp, rfl⟩ := exists_path_of_ofPath h
  have hfirst : Selector.select ⟨expression, .path p⟩ text
      = (Selector.selectAll ⟨expression, .path p⟩ text).head? :=
    p.select_eq_head? text
  refine ⟨hfirst, ?_, p, hp, rfl, ?_⟩
  · rw [hfirst]
    apply List.head?_eq_none_iff
  · intro before e after hevaluate hbefore he
    have hnothing : before.flatMap p.render = [] := List.flatMap_eq_nil_iff.2 hbefore
    have hends (others : List Html.Node) :
        p.writeUpTo 1 [] (before ++ e :: others) = p.render e := by
      rw [p.writeUpTo_of_reaches others, hnothing]
      · rfl
      · rw [hnothing]
        exact Nat.one_pos
      · rw [hnothing]
        apply List.length_pos_iff.2 he
    constructor
    · change (p.writeUpTo 1 [] (p.evaluate (Html.parse text))).head? = (p.render e).head?
      rw [hevaluate, hends]
    · apply hends

/-- The step to the items of lists. -/
def listItem : Step :=
  { axis := .descendant, test := .tag "li", predicates := [] }

/-- The path to identifiers in items of lists. -/
def itemIdentifiers : Path :=
  { steps := [listItem], output := .attr "id", outputAxis := .descendant }

/-- The first item has no identifier in it, the second one has two. -/
theorem ofPath_identifiers_select :
  ∃ s, Selector.ofPath "//li//@id" = .ok s ∧
    s.selectAll "<li>a<li><b id=x>b</b><b id=y>c" = ["x", "y"] ∧
    s.select "<li>a<li><b id=x>b</b><b id=y>c" = some "x"
  := by
  have hpath : Selector.ofPath "//li//@id" = .ok ⟨"//li//@id", .path itemIdentifiers⟩ := by
    have hparse : Path.parse "//li//@id" = .ok itemIdentifiers := by decide +kernel
    rw [Selector.ofPath, hparse]
  have htaken : (locatedRoot? (Html.parse "<li>a<li><b id=x>b</b><b id=y>c")).map (fun root =>
      ((listItem.firstCandidates root).filter listItem.accepts).map fun e =>
        (e.node.id, itemIdentifiers.render e.node)) = some [(4, []), (6, ["x", "y"])] := by
    decide +kernel
  have hall : itemIdentifiers.selectAll "<li>a<li><b id=x>b</b><b id=y>c" = ["x", "y"] :=
    Path.selectAll_of_taken rfl htaken (by decide)
  refine ⟨_, hpath, hall, ?_⟩
  obtain ⟨hfirst, -⟩ :=
    Selector.select_path_eq_head?_selectAll hpath "<li>a<li><b id=x>b</b><b id=y>c"
  rw [hfirst]
  exact congrArg List.head? hall

end PageModel
