import PageModel.Proofs.XPath.DocumentOrder
import PageModel.Proofs.XPath.Predicates

/-!
# Elements that pass a test of an attribute

Every element that a path reaches passes all tests of attributes in the last step, wherever they stand
among predicates about places (`Path.attrTest_of_mem_evaluate`). All tests but one fail where the
attribute is absent; the test that a value differs does not, and a path may reach elements without the
attribute there (`evaluate_differs_absent`).
-/

namespace PageModel.XPath

open Html

/-! ### Absent attributes -/

/-- An absent attribute passes the test that its value differs from another one, and no other test. -/
theorem AttrTest.holds_none_iff {test : AttrTest} :
  test.holds none = true ↔ ∃ v, test = .differs v
  := by
  cases test <;> simp [AttrTest.holds]

theorem AttrTest.holds_differs_iff {v : String} {value : Option String} :
  (AttrTest.differs v).holds value = true ↔ value ≠ some v
  := by
  rw [AttrTest.holds, bne_iff_ne]

/-- An attribute that passes a test is present, unless the test is that its value differs. -/
theorem AttrTest.isSome_of_holds {test : AttrTest} {value : Option String}
    (h : test.holds value = true) (hdiffers : ∀ v, test ≠ .differs v) :
  value.isSome = true
  := by
  cases value with
  | some v => rfl
  | none =>
      obtain ⟨v, hv⟩ := AttrTest.holds_none_iff.1 h
      exact absurd hv (hdiffers v)

/-! ### The last step -/

/-- A step that accepts an element has no test of an attribute that the element does not pass. -/
theorem Step.AcceptsIn.attrTest_holds {document e : Node} {s : Step} {a : String} {test : AttrTest}
    (hdocument : document.Distinct) (h : s.AcceptsIn document e)
    (htest : .attr a test ∈ s.predicates) :
  test.holds (e.attr? a) = true
  := by
  obtain ⟨parent, hparent, he, haccepts⟩ := h
  have hnodup := nodup_childElements hdocument hparent
  rw [Step.accepts_eq_passes hnodup he, s.passes_length_iff] at haccepts
  obtain ⟨i, hi⟩ := List.getElem?_of_mem htest
  exact haccepts.2 i _ hi

/-- The last element of a chain is one that the last step accepts. -/
theorem Follows.acceptsIn_last {document e : Node} {s last : Step} {ss : List Step}
    {es : List Node} (h : Follows document e ss es) (haccepts : s.AcceptsIn document e)
    (hlast : (s :: ss).getLast? = some last) :
  last.AcceptsIn document (es.getLastD e)
  := by
  induction h generalizing s with
  | nil e =>
      obtain rfl := Option.some.inj hlast
      exact haccepts
  | cons _ haccepts' _ ih =>
      rw [List.getLast?_cons_cons] at hlast
      rw [List.getLastD_cons]
      exact ih haccepts' hlast

theorem Path.Reaches.acceptsIn_last {document root e : Node} {p : Path} {last : Step}
    (h : p.Reaches document root e) (hlast : p.steps.getLast? = some last) :
  last.AcceptsIn document e
  := by
  obtain ⟨es, hchain, rfl⟩ := h
  generalize p.steps = ss at hchain hlast
  cases hchain with
  | nil => cases hlast
  | cons _ haccepts hfollows =>
      rw [List.getLastD_cons]
      exact hfollows.acceptsIn_last haccepts hlast

/-! ### Paths -/

/-- An element that a path reaches passes each test of an attribute in the last step of the path,
whatever other predicates the step has. So it has the attribute, unless the test is that the value of
the attribute differs from another one; then it lacks the attribute, or has it with another value. -/
theorem Path.attrTest_of_mem_evaluate {p : Path} {s : Step} {a : String} {test : AttrTest}
    (hlast : p.steps.getLast? = some s) (htest : .attr a test ∈ s.predicates) (text : String)
    {e : Node} (he : e ∈ p.evaluate (Html.parse text)) :
  test.holds (e.attr? a) = true ∧
    ((∀ v, test ≠ .differs v) → (e.attr? a).isSome = true) ∧
    ∀ v, test = .differs v → e.attr? a ≠ some v
  := by
  obtain ⟨root, hroot⟩ := exists_rootElement? text
  have hdocument := distinct_parse text
  have hreaches := (p.mem_evaluate hroot hdocument).1 he
  have hholds := (hreaches.acceptsIn_last hlast).attrTest_holds hdocument htest
  refine ⟨hholds, AttrTest.isSome_of_holds hholds, ?_⟩
  rintro v rfl
  exact AttrTest.holds_differs_iff.1 hholds

/-- The step to the last item of those with an empty title. -/
def lastUntitled : Step :=
  { axis := .descendant, test := .tag "li", predicates := [.attr "title" (.equals ""), .last] }

/-- The path to it. -/
def lastUntitledItem : Path :=
  { steps := [lastUntitled], output := .outerMarkup, outputAxis := .child }

/-- The item that is reached has a title, though it is empty, and the item after it has none. -/
theorem evaluate_lastUntitledItem :
  Path.parse "//li[@title=''][last()]" = .ok lastUntitledItem ∧
    ∃ e ∈ lastUntitledItem.evaluate (Html.parse "<ul><li title=x>1<li title>2<li>3</ul>"),
      (e.attr? "title").isSome = true
  := by
  have htaken : (locatedRoot? (Html.parse "<ul><li title=x>1<li title>2<li>3</ul>")).map
      (fun root => ((lastUntitled.firstCandidates root).filter lastUntitled.accepts).map fun e =>
        (e.node.id, e.node.attr? "title")) = some [(7, some "")] := by
    decide +kernel
  have hsteps : lastUntitledItem.steps = [lastUntitled] := rfl
  obtain ⟨e, he, -⟩ := Path.exists_mem_evaluate_of_taken (·.attr? "title") hsteps htaken (by decide)
    List.mem_cons_self
  have hpassed := Path.attrTest_of_mem_evaluate (s := lastUntitled) rfl List.mem_cons_self _ he
  refine ⟨by decide +kernel, e, he, hpassed.2.1 ?_⟩
  intro v hv
  cases hv

/-! ### Elements without the attribute -/

/-- The step to the items that are not of a class. -/
def otherClass : Step :=
  { axis := .descendant, test := .tag "li", predicates := [.attr "class" (.differs "a")] }

/-- The path to them. -/
def otherClassItems : Path :=
  { steps := [otherClass], output := .outerMarkup, outputAxis := .child }

/-- An item without a class is reached by the test that its class differs. -/
theorem evaluate_differs_absent :
  Path.parse "//li[@class!='a']" = .ok otherClassItems ∧
    ∃ e ∈ otherClassItems.evaluate (Html.parse "<ul><li class=a>1<li>2</ul>"),
      e.attr? "class" = none
  := by
  have htaken : (locatedRoot? (Html.parse "<ul><li class=a>1<li>2</ul>")).map
      (fun root => ((otherClass.firstCandidates root).filter otherClass.accepts).map fun e =>
        (e.node.id, e.node.attr? "class")) = some [(7, none)] := by
    decide +kernel
  have hsteps : otherClassItems.steps = [otherClass] := rfl
  obtain ⟨e, he, hnone⟩ := Path.exists_mem_evaluate_of_taken (·.attr? "class") hsteps htaken
    (by decide) List.mem_cons_self
  exact ⟨by decide +kernel, e, he, hnone⟩

end PageModel.XPath
