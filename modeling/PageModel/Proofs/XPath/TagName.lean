import PageModel.Proofs.Unicode.Lowercase
import PageModel.Proofs.XPath.DocumentOrder
import PageModel.Proofs.XPath.Reading.Path

/-!
# Elements of a name

The name in a step is put in lower case when the path is read, by the rules of all scripts, and the
names of elements are compared with it up to the case of ASCII letters. For a name without capitals
beyond the ASCII range this makes no difference, and a path selects the elements of the name up to the
case of ASCII letters. An element the name of which has such capitals is not selected by its name
(`mem_evaluate_named_iff`).
-/

namespace PageModel.XPath

open Html

/-- The path to the elements of a name. -/
def named (name : String) : Path :=
  { steps := [⟨.descendant, .tag (Unicode.lowercaseText name), []⟩], output := .outerMarkup,
    outputAxis := .child }

/-- Two slashes and a name are read as the path to the elements of the name. -/
theorem parse_named {name : String} (h : IsNameText name.toList) :
  Path.parse ("//" ++ name) = .ok (named name)
  := by
  have hpart : IsPart true (['/', '/'] ++ name.toList ++ [])
      (.step ⟨.descendant, .tag (Unicode.lowercaseText name), []⟩) := by
    have htag := IsNodeTest.tag h
    rw [String.ofList_toList] at htag
    apply IsPart.step IsAxis.descendant htag IsPredicates.nil
  have hpath := IsPath.parts isSpace_nil (IsParts.last hpart isSpace_nil)
  apply parse_of_isPath
  rw [String.toList_append]
  rwa [List.append_nil, List.append_nil, List.nil_append] at hpath

/-! ### Comparison of names -/

theorem sameIgnoringAsciiCase_iff {cs ds : List Char} :
  sameIgnoringAsciiCase cs ds = true ↔ cs.map asciiLower = ds.map asciiLower
  := decide_eq_true_iff

theorem sameIgnoringAsciiCase_congr_right {cs ds es : List Char}
    (h : sameIgnoringAsciiCase ds es = true) :
  sameIgnoringAsciiCase cs ds = sameIgnoringAsciiCase cs es
  := by
  rw [sameIgnoringAsciiCase_iff] at h
  rw [sameIgnoringAsciiCase, sameIgnoringAsciiCase, h]

theorem sameIgnoringAsciiCase_congr_left {cs ds es : List Char}
    (h : sameIgnoringAsciiCase cs ds = true) :
  sameIgnoringAsciiCase cs es = sameIgnoringAsciiCase ds es
  := by
  rw [sameIgnoringAsciiCase_iff] at h
  rw [sameIgnoringAsciiCase, sameIgnoringAsciiCase, h]

/-! ### Names with letter numbers -/

theorem isNameChar_of_letterNumber {c : Char} (hfar : 128 ≤ c.toNat)
    (h : Unicode.categoryNl.contains c = true) :
  isNameChar c = true
  := by
  have halphanumeric : Unicode.isAlphanumeric c = true := by
    rw [Unicode.isAlphanumeric, if_neg (Nat.not_lt_of_le hfar), h, Bool.or_true, Bool.true_or]
  rw [isNameChar, halphanumeric, Bool.true_or, Bool.true_or, Bool.true_or]

/-- A name may go on with a letter number. -/
theorem IsNameText.append_letterNumber {cs : List Char} {c : Char} (hcs : IsNameText cs)
    (hfar : 128 ≤ c.toNat) (h : Unicode.categoryNl.contains c = true) :
  IsNameText (cs ++ [c])
  := by
  obtain ⟨d, cs, rfl⟩ := List.exists_cons_of_ne_nil hcs.nonempty
  refine ⟨List.cons_ne_nil _ _, ?_, hcs.first⟩
  intro e he
  rcases List.mem_append.1 he with he | he
  · exact hcs.chars e he
  · obtain rfl := List.mem_singleton.1 he
    exact isNameChar_of_letterNumber hfar h

/-! ### What a name selects -/

/-- Two slashes and a name select, of the root element and the elements below it, those with a name that
is the lower case of the given one up to the case of ASCII letters. An element that has the given name
itself, up to the case of ASCII letters, is one of them if and only if the given name is lower case
beyond the ASCII range, and if it is, they are exactly the elements of the given name. -/
theorem mem_evaluate_named_iff {name : String} (hname : IsNameText name.toList) (text : String) :
  Path.parse ("//" ++ name) = .ok (named name) ∧
    ∃ root, (Html.parse text).rootElement? = some root ∧
      (∀ e, e ∈ (named name).evaluate (Html.parse text) ↔ e ∈ root.elementsOrSelf ∧
        sameIgnoringAsciiCase e.name.toList (Unicode.lowercase name.toList) = true) ∧
      (∀ e ∈ root.elementsOrSelf, sameIgnoringAsciiCase e.name.toList name.toList = true →
        (e ∈ (named name).evaluate (Html.parse text) ↔ Unicode.IsLowerBeyondAscii name.toList)) ∧
      (Unicode.IsLowerBeyondAscii name.toList →
        ∀ e, e ∈ (named name).evaluate (Html.parse text) ↔
          e ∈ root.elementsOrSelf ∧ sameIgnoringAsciiCase e.name.toList name.toList = true)
  := by
  obtain ⟨root, hroot⟩ := exists_rootElement? text
  have hselects (e : Node) : e ∈ (named name).evaluate (Html.parse text) ↔
      e ∈ root.elementsOrSelf ∧
        sameIgnoringAsciiCase e.name.toList (Unicode.lowercase name.toList) = true := by
    rw [Path.mem_evaluate_descendant hroot (distinct_parse text) rfl, NodeTest.holds,
      Unicode.lowercaseText, String.toList_ofList]
  refine ⟨parse_named hname, root, hroot, hselects, ?_, ?_⟩
  · intro e he hsame
    rw [hselects, sameIgnoringAsciiCase_congr_left hsame,
      Unicode.sameIgnoringAsciiCase_lowercase_iff]
    apply and_iff_right he
  · intro hlower e
    have hkept := (Unicode.sameIgnoringAsciiCase_lowercase_iff name.toList).2 hlower
    rw [hselects, sameIgnoringAsciiCase_congr_right hkept]

/-- The elements of a name in which a letter is a capital, and a letter number is a small one. -/
theorem mem_evaluate_named_small :
  IsNameText "Partⅳ".toList ∧ Unicode.IsLowerBeyondAscii "Partⅳ".toList ∧
    ∀ text, ∃ root, (Html.parse text).rootElement? = some root ∧
      ∀ e, e ∈ (named "Partⅳ").evaluate (Html.parse text) ↔
        e ∈ root.elementsOrSelf ∧ sameIgnoringAsciiCase e.name.toList "Partⅳ".toList = true
  := by
  have hascii : IsNameText "Part".toList := isNameText_of_all (by decide) (by decide +kernel)
  have hname : IsNameText "Partⅳ".toList := by
    apply hascii.append_letterNumber (c := 'ⅳ') (by decide)
    decide +kernel
  have hlower : Unicode.IsLowerBeyondAscii "Partⅳ".toList := by decide +kernel
  refine ⟨hname, hlower, ?_⟩
  intro text
  obtain ⟨-, root, hroot, -, -, hexactly⟩ := mem_evaluate_named_iff hname text
  exact ⟨root, hroot, hexactly hlower⟩

/-- An element with a capital letter number in its name is not selected by its name. -/
theorem evaluate_named_capital :
  Path.parse "//xⅠ" = .ok (named "xⅠ") ∧
    (Html.parse "<xⅠ>").elementsOrSelf.map (·.name) = ["html", "head", "body", "xⅠ"] ∧
    (named "xⅠ").evaluate (Html.parse "<xⅠ>") = []
  := by
  have hascii : IsNameText "x".toList := isNameText_of_all (by decide) (by decide +kernel)
  have hname : IsNameText "xⅠ".toList := by
    apply hascii.append_letterNumber (c := 'Ⅰ') (by decide)
    decide +kernel
  refine ⟨parse_named hname, by decide +kernel, ?_⟩
  have hsteps : (named "xⅠ").steps = [⟨.descendant, .tag "xⅰ", []⟩] := by decide +kernel
  have htaken : (locatedRoot? (Html.parse "<xⅠ>")).map (fun root =>
      ((Step.firstCandidates ⟨.descendant, .tag "xⅰ", []⟩ root).filter
        (Step.accepts ⟨.descendant, .tag "xⅰ", []⟩)).map fun e => (e.node.id, e.node.name))
      = some [] := by
    decide +kernel
  have hmap := Path.map_evaluate_of_taken (·.name) hsteps htaken .nil
  exact List.map_eq_nil_iff.1 hmap

end PageModel.XPath
