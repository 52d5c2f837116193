import PageModel.Proofs.Selector.Path
import PageModel.Proofs.Unicode.Tidy
import PageModel.Proofs.XPath.Location

/-!
# Texts of elements

A location may end in the text of its elements, trimmed or tidy. Either way there is one text for each
element that is reached, in the order of the elements, except for those whose text is all white space;
so the texts line up, and each tidy one is the trimmed one with its runs of white space replaced.
-/

namespace PageModel

open XPath

/-- A text with every run of white space replaced by one space. -/
def collapsed (s : String) : String :=
  String.ofList (Unicode.collapse s.toList)

/-- The texts of nodes, trimmed, without those that are all white space. -/
def trimmedTexts (ns : List Html.Node) : List String :=
  (ns.filter fun n => !Unicode.isBlankText n.text).map fun n => Unicode.trimText n.text

/-! ### Texts that are written -/

/-- The words of a text, one space apart, are the trimmed text with its runs of white space replaced. -/
theorem tidied_eq_collapsed (s : String) :
  tidied s = collapsed (Unicode.trimText s)
  := by
  rw [tidied, collapsed, Unicode.trimText, String.toList_ofList, Unicode.tidy_eq_collapse_trim]

theorem ofList_eq_empty_iff {cs : List Char} :
  String.ofList cs = "" ↔ cs = []
  := by
  rw [← String.toList_inj, String.toList_ofList]
  rfl

theorem isEmpty_trimText (s : String) :
  (Unicode.trimText s).isEmpty = Unicode.isBlankText s
  := by
  rw [Bool.eq_iff_iff, String.isEmpty_iff, Unicode.trimText, ofList_eq_empty_iff,
    Unicode.isBlankText, List.all_eq_true]
  apply Unicode.trim_eq_nil_iff

theorem isEmpty_tidied (s : String) :
  (tidied s).isEmpty = Unicode.isBlankText s
  := by
  rw [← isEmpty_trimText, Bool.eq_iff_iff, String.isEmpty_iff, String.isEmpty_iff,
    tidied_eq_collapsed, collapsed, ofList_eq_empty_iff, Unicode.collapse_eq_nil_iff,
    String.toList_eq_nil_iff]

/-- Texts that are empty are left out. -/
theorem flatMap_nonEmpty {α : Type} (f : α → String) (as : List α) :
  (as.flatMap fun a => nonEmpty (f a)) = (as.filter fun a => !(f a).isEmpty).map f
  := by
  induction as with
  | nil => rfl
  | cons a as ih =>
      rw [List.flatMap_cons, ih, nonEmpty, List.filter_cons]
      cases (f a).isEmpty <;> rfl

theorem flatMap_nonEmpty_trimText (ns : List Html.Node) :
  (ns.flatMap fun n => nonEmpty (Unicode.trimText n.text)) = trimmedTexts ns
  := by
  simp only [flatMap_nonEmpty, isEmpty_trimText, trimmedTexts]

theorem flatMap_nonEmpty_tidied (ns : List Html.Node) :
  (ns.flatMap fun n => nonEmpty (tidied n.text)) = (trimmedTexts ns).map collapsed
  := by
  simp only [flatMap_nonEmpty, isEmpty_tidied]
  simp only [trimmedTexts, List.map_map, Function.comp_def, tidied_eq_collapsed]

/-- A text that is left is not empty, and neither starts nor ends with white space. -/
theorem isTrimmed_of_mem_trimmedTexts {ns : List Html.Node} {s : String}
    (h : s ∈ trimmedTexts ns) :
  s ≠ "" ∧ Unicode.IsTrimmed s.toList
  := by
  obtain ⟨n, hn, rfl⟩ := List.mem_map.1 h
  have hblank := List.of_mem_filter hn
  rw [← isEmpty_trimText, Bool.not_eq_true', String.isEmpty_eq_false_iff] at hblank
  use hblank
  rw [Unicode.trimText, String.toList_ofList]
  apply Unicode.isTrimmed_trim

/-- A trimmed text with its runs of white space replaced is its own words, one space apart. -/
theorem isTidy_collapsed {s : String} (h : s ≠ "" ∧ Unicode.IsTrimmed s.toList) :
  collapsed s ≠ "" ∧ Unicode.IsTidy (collapsed s).toList ∧ tidied (collapsed s) = collapsed s
  := by
  obtain ⟨hne, htrimmed⟩ := h
  have htidy := Unicode.isTidy_collapse htrimmed
  refine ⟨?_, ?_, ?_⟩
  · rwa [Ne, collapsed, ofList_eq_empty_iff, Unicode.collapse_eq_nil_iff, String.toList_eq_nil_iff]
  · rwa [collapsed, String.toList_ofList]
  · rw [tidied, collapsed, String.toList_ofList, Unicode.tidy_of_isTidy htidy]

/-! ### Paths that end in a text -/

/-- A path may end in `//text()` if it may end in `/allText()` and in `/tidyText()`. On every document
the first two select the same: the trimmed text of each element that is reached, unless it is all white
space. The third selects as many texts, which are these with every run of white space replaced by one
space, and of which nothing is left to replace. -/
theorem Selector.texts_line_up {location : String} {own : Selector}
    (h : Selector.ofPath (location ++ "//text()") = .ok own) :
  ∃ p all tidy, Path.parse (location ++ "//text()") = .ok p ∧
    Selector.ofPath (location ++ "/allText()") = .ok all ∧
    Selector.ofPath (location ++ "/tidyText()") = .ok tidy ∧
    ∀ document,
      all.selectAll document = trimmedTexts (p.evaluate (Html.parse document)) ∧
      own.selectAll document = all.selectAll document ∧
      (tidy.selectAll document).length = (all.selectAll document).length ∧
      tidy.selectAll document = (all.selectAll document).map collapsed ∧
      (∀ s ∈ all.selectAll document, s ≠ "" ∧ Unicode.IsTrimmed s.toList) ∧
      ∀ s ∈ tidy.selectAll document, s ≠ "" ∧ Unicode.IsTidy s.toList ∧ tidied s = s
  := by
  obtain ⟨p, hp, rfl⟩ := exists_path_of_ofPath h
  obtain ⟨steps, hlocation, rfl⟩ := parse_text_iff.1 hp
  have hall : Path.parse (location ++ "/allText()") = .ok ⟨steps, .allText, .child⟩ :=
    hlocation.parse_function (fun _ => .child) .allText rfl
  have htidy : Path.parse (location ++ "/tidyText()") = .ok ⟨steps, .tidyText, .child⟩ :=
    hlocation.parse_function (fun _ => .child) .tidyText rfl
  use ⟨steps, .ownText, .descendant⟩, ⟨location ++ "/allText()", .path ⟨steps, .allText, .child⟩⟩,
    ⟨location ++ "/tidyText()", .path ⟨steps, .tidyText, .child⟩⟩, hp, ofPath_of_parse hall,
    ofPath_of_parse htidy
  intro document
  -- what is written of elements does not bear on which are reached
  generalize hreached :
    Path.evaluate ⟨steps, .ownText, .descendant⟩ (Html.parse document) = reached
  have hall : Selector.selectAll ⟨location ++ "/allText()", .path ⟨steps, .allText, .child⟩⟩ document
      = trimmedTexts reached := by
    rw [← flatMap_nonEmpty_trimText, ← hreached]
    rfl
  have hown : Selector.selectAll ⟨location ++ "//text()", .path ⟨steps, .ownText, .descendant⟩⟩
      document = trimmedTexts reached := by
    rw [← flatMap_nonEmpty_trimText, ← hreached]
    rfl
  have htidy : Selector.selectAll ⟨location ++ "/tidyText()", .path ⟨steps, .tidyText, .child⟩⟩
      document = (trimmedTexts reached).map collapsed := by
    rw [← flatMap_nonEmpty_tidied, ← hreached]
    rfl
  rw [hall, hown, htidy]
  refine ⟨rfl, rfl, List.length_map _, rfl, ?_, ?_⟩
  · intro s hs
    apply isTrimmed_of_mem_trimmedTexts hs
  · intro s hs
    obtain ⟨t, ht, rfl⟩ := List.mem_map.1 hs
    apply isTidy_collapsed (isTrimmed_of_mem_trimmedTexts ht)

/-- The path to the texts of the items of lists. -/
def itemTexts : Path :=
  { steps := [listItem], output := .ownText, outputAxis := .descendant }

/-- Three items of a list: one with a line end and spaces in its text, a blank one, and one of a word. -/
def threeItems : String :=
  "<li> a \n<b>b</b><li> <li>c"

/-- The blank item drops out of all three lists. -/
theorem ofPath_items_texts :
  ∃ own all tidy, Selector.ofPath ("//li" ++ "//text()") = .ok own ∧
    Selector.ofPath ("//li" ++ "/allText()") = .ok all ∧
    Selector.ofPath ("//li" ++ "/tidyText()") = .ok tidy ∧
    own.selectAll threeItems = ["a \nb", "c"] ∧
    all.selectAll threeItems = ["a \nb", "c"] ∧
    tidy.selectAll threeItems = ["a b", "c"]
  := by
  have hparse : Path.parse ("//li" ++ "//text()") = .ok itemTexts := by decide +kernel
  have hown := ofPath_of_parse hparse
  obtain ⟨_, all, tidy, -, hall, htidy, htexts⟩ := Selector.texts_line_up hown
  obtain ⟨-, hsame, -, hcollapsed, -⟩ := htexts threeItems
  have htaken : (locatedRoot? (Html.parse threeItems)).map (fun root =>
      ((listItem.firstCandidates root).filter listItem.accepts).map fun e =>
        (e.node.id, itemTexts.render e.node)) = some [(4, ["a \nb"]), (8, []), (10, ["c"])] := by
    decide +kernel
  have hselected : itemTexts.selectAll threeItems = ["a \nb", "c"] :=
    Path.selectAll_of_taken rfl htaken (by decide)
  have hall' := hsame.symm.trans hselected
  rw [hall'] at hcollapsed
  use ⟨"//li" ++ "//text()", .path itemTexts⟩, all, tidy, hown, hall, htidy, hselected, hall'
  rw [hcollapsed]
  decide

end PageModel
