import PageModel.Proofs.XPath.Reading.Word

/-!
# Reading predicates

What is read as a predicate is one of the grammar, and a predicate of the grammar is read up to the
bracket after it. The reader of a predicate that only asks for an attribute looks past the white
space after its name, so that this white space may be read or left.
-/

namespace PageModel.XPath

/-! ### What is read is of the grammar -/

/-- What is read after an at sign is a predicate about an attribute. White space after the attribute is
read with it where nothing is compared. -/
theorem readAttrPredicate_sound {cs rest : List Char} {p : Predicate}
    (h : readAttrPredicate cs = .ok (p, rest)) :
  ∃ text space, IsPredicate ('@' :: text) p ∧ IsSpace space ∧ cs = text ++ (space ++ rest)
  := by
  unfold readAttrPredicate at h
  split at h
  · cases h
  · next name r hname =>
    obtain ⟨run, hrun, rfl, rfl⟩ := readName_sound hname
    split at h
    · next r' htrim =>
      obtain ⟨space, hspace, rfl⟩ := exists_space htrim
      split at h
      · cases h
      · next value r'' hvalue =>
        obtain ⟨literal, hliteral, htext⟩ := readLiteral_sound hvalue
        obtain ⟨space', hspace', rfl⟩ := exists_space htext
        cases h
        use run ++ space ++ ['!', '='] ++ space' ++ literal, []
        refine ⟨?_, isSpace_nil, ?_⟩
        · exact .comparison hrun hspace .differs hspace' hliteral
        · simp only [List.append_assoc, List.cons_append, List.nil_append]
    · next r' htrim =>
      obtain ⟨space, hspace, rfl⟩ := exists_space htrim
      split at h
      · cases h
      · next value r'' hvalue =>
        obtain ⟨literal, hliteral, htext⟩ := readLiteral_sound hvalue
        obtain ⟨space', hspace', rfl⟩ := exists_space htext
        cases h
        use run ++ space ++ ['='] ++ space' ++ literal, []
        refine ⟨?_, isSpace_nil, ?_⟩
        · exact .comparison hrun hspace .equals hspace' hliteral
        · simp only [List.append_assoc, List.cons_append, List.nil_append]
    · obtain ⟨space, hspace, hr⟩ := exists_space (rfl : Unicode.trimStart r = _)
      cases h
      use run, space
      refine ⟨.present hrun, hspace, ?_⟩
      rw [← hr]

/-- What is read as arguments is an attribute and a literal, with the signs around them and white space
between all parts. -/
theorem readArguments_sound {cs rest : List Char} {name value : String}
    (h : readArguments cs = .ok ((name, value), rest)) :
  ∃ space₁ space₂ run space₃ space₄ literal space₅,
    IsSpace space₁ ∧ IsSpace space₂ ∧ IsNameText run ∧ IsSpace space₃ ∧ IsSpace space₄ ∧
    IsLiteral literal value ∧ IsSpace space₅ ∧ name = String.ofList run ∧
    cs = space₁ ++ ['('] ++ space₂ ++ ['@'] ++ run ++ space₃ ++ [','] ++ space₄ ++ literal ++
      space₅ ++ [')'] ++ rest
  := by
  unfold readArguments at h
  split at h
  · next r₁ h₁ =>
    obtain ⟨space₁, hspace₁, rfl⟩ := exists_space h₁
    split at h
    · next r₂ h₂ =>
      obtain ⟨space₂, hspace₂, rfl⟩ := exists_space h₂
      split at h
      · cases h
      · next name' r₃ hname =>
        obtain ⟨run, hrun, rfl, rfl⟩ := readName_sound hname
        split at h
        · next r₄ h₄ =>
          obtain ⟨space₃, hspace₃, rfl⟩ := exists_space h₄
          split at h
          · cases h
          · next value' r₅ hvalue =>
            obtain ⟨literal, hliteral, htext⟩ := readLiteral_sound hvalue
            obtain ⟨space₄, hspace₄, rfl⟩ := exists_space htext
            split at h
            · next r₆ h₆ =>
              obtain ⟨space₅, hspace₅, rfl⟩ := exists_space h₆
              cases h
              refine ⟨space₁, space₂, run, space₃, space₄, literal, space₅, hspace₁, hspace₂, hrun,
                hspace₃, hspace₄, hliteral, hspace₅, rfl, ?_⟩
              simp only [List.append_assoc, List.cons_append, List.nil_append]
            · cases h
        · cases h
    · cases h
  · cases h

theorem isFunction_of_functionTest? {run : List Char} {test : String → AttrTest}
    (h : functionTest? (String.ofList run) = some test) :
  IsFunction run test
  := by
  unfold functionTest? at h
  split at h
  · next hrun =>
    obtain rfl := eq_toList_of_ofList_eq hrun
    cases h
    exact .contains
  · next hrun =>
    obtain rfl := eq_toList_of_ofList_eq hrun
    cases h
    exact .startsWith
  · cases h

/-- What is read as a function with its arguments is a predicate. -/
theorem readFunctionPredicate_sound {cs rest : List Char} {p : Predicate}
    (h : readFunctionPredicate cs = .ok (p, rest)) :
  ∃ text, IsPredicate text p ∧ cs = text ++ rest
  := by
  unfold readFunctionPredicate at h
  split at h
  · cases h
  · next function r hname =>
    obtain ⟨run, -, rfl, rfl⟩ := readName_sound hname
    split at h
    · cases h
    · next test htest =>
      split at h
      · cases h
      · next name value r' harguments =>
        obtain ⟨space₁, space₂, name', space₃, space₄, literal, space₅, hspace₁, hspace₂, hname',
          hspace₃, hspace₄, hliteral, hspace₅, rfl, rfl⟩ := readArguments_sound harguments
        cases h
        use run ++ space₁ ++ ['('] ++ space₂ ++ ['@'] ++ name' ++ space₃ ++ [','] ++ space₄ ++
          literal ++ space₅ ++ [')']
        constructor
        · exact .function (isFunction_of_functionTest? htest) hspace₁ hspace₂ hname' hspace₃
            hspace₄ hliteral hspace₅
        · simp only [List.append_assoc, List.cons_append, List.nil_append]

/-- What is read as a predicate is one, possibly with white space after it. -/
theorem readPredicate_sound {cs rest : List Char} {p : Predicate}
    (h : readPredicate cs = .ok (p, rest)) :
  ∃ text space, IsPredicate text p ∧ IsSpace space ∧ cs = text ++ (space ++ rest)
  := by
  unfold readPredicate at h
  split at h
  · next n r hnumber =>
    split at h
    · cases h
    · next hn =>
      obtain ⟨text, htext, rfl⟩ := readNumber_sound hnumber hn
      cases h
      exact ⟨text, [], .position htext, isSpace_nil, rfl⟩
  · split at h
    · next r hlast =>
      cases h
      exact ⟨_, [], .last, isSpace_nil, eq_append_of_dropPrefix? hlast⟩
    · split at h
      · next r =>
        obtain ⟨text, space, htext, hspace, rfl⟩ := readAttrPredicate_sound h
        exact ⟨'@' :: text, space, htext, hspace, rfl⟩
      · obtain ⟨text, htext, rfl⟩ := readFunctionPredicate_sound h
        exact ⟨text, [], htext, isSpace_nil, rfl⟩

/-! ### What is of the grammar is read -/

/-- An attribute that is compared with nothing is read up to the bracket, with the white space before it.
-/
theorem readAttrPredicate_present {run space : List Char} (hrun : IsNameText run)
    (hspace : IsSpace space) (rest : List Char) :
  readAttrPredicate (run ++ (space ++ ']' :: rest))
    = .ok (.attr (String.ofList run) .present, ']' :: rest)
  := by
  have hname : StartsOutside isNameChar (space ++ ']' :: rest) :=
    startsOutside_space isNameChar_of_isBlank hspace (startsOutside_cons (by decide))
  have htrim : Unicode.trimStart (space ++ ']' :: rest) = ']' :: rest :=
    trimStart_space hspace (startsOutside_cons (by decide))
  simp only [readAttrPredicate, readName_complete _ hrun hname, htrim]
  rfl

/-- A comparison is read to the end of its literal. -/
theorem readAttrPredicate_comparison {run space sign space' literal : List Char} {value : String}
    {test : String → AttrTest} (hrun : IsNameText run) (hspace : IsSpace space)
    (hsign : IsComparison sign test) (hspace' : IsSpace space') (hliteral : IsLiteral literal value)
    (rest : List Char) :
  readAttrPredicate (run ++ (space ++ (sign ++ (space' ++ (literal ++ rest)))))
    = .ok (.attr (String.ofList run) (test value), rest)
  := by
  have hvalue : Unicode.trimStart (space' ++ (literal ++ rest)) = literal ++ rest :=
    trimStart_space hspace' (hliteral.startsOutside_isBlank rest)
  cases hsign with
  | equals =>
      have hname : StartsOutside isNameChar (space ++ '=' :: (space' ++ (literal ++ rest))) :=
        startsOutside_space isNameChar_of_isBlank hspace (startsOutside_cons (by decide))
      have htrim : Unicode.trimStart (space ++ '=' :: (space' ++ (literal ++ rest)))
          = '=' :: (space' ++ (literal ++ rest)) :=
        trimStart_space hspace (startsOutside_cons (by decide))
      simp only [List.cons_append, List.nil_append, readAttrPredicate,
        readName_complete _ hrun hname, htrim, hvalue, readLiteral_complete hliteral]
  | differs =>
      have hname :
          StartsOutside isNameChar (space ++ '!' :: '=' :: (space' ++ (literal ++ rest))) :=
        startsOutside_space isNameChar_of_isBlank hspace (startsOutside_cons (by decide))
      have htrim : Unicode.trimStart (space ++ '!' :: '=' :: (space' ++ (literal ++ rest)))
          = '!' :: '=' :: (space' ++ (literal ++ rest)) :=
        trimStart_space hspace (startsOutside_cons (by decide))
      simp only [List.cons_append, List.nil_append, readAttrPredicate,
        readName_complete _ hrun hname, htrim, hvalue, readLiteral_complete hliteral]

/-- Arguments are read to their closing parenthesis. -/
theorem readArguments_complete {space₁ space₂ run space₃ space₄ literal space₅ : List Char}
    {value : String} (hspace₁ : IsSpace space₁) (hspace₂ : IsSpace space₂) (hrun : IsNameText run)
    (hspace₃ : IsSpace space₃) (hspace₄ : IsSpace space₄) (hliteral : IsLiteral literal value)
    (hspace₅ : IsSpace space₅) (rest : List Char) :
  readArguments (space₁ ++ '(' :: (space₂ ++ '@' :: (run ++ (space₃ ++ ',' :: (space₄ ++
      (literal ++ (space₅ ++ ')' :: rest)))))))
    = .ok ((String.ofList run, value), rest)
  := by
  have hopen (r : List Char) : Unicode.trimStart (space₁ ++ '(' :: r) = '(' :: r :=
    trimStart_space hspace₁ (startsOutside_cons (by decide))
  have hat (r : List Char) : Unicode.trimStart (space₂ ++ '@' :: r) = '@' :: r :=
    trimStart_space hspace₂ (startsOutside_cons (by decide))
  have hname (r : List Char) : StartsOutside isNameChar (space₃ ++ ',' :: r) :=
    startsOutside_space isNameChar_of_isBlank hspace₃ (startsOutside_cons (by decide))
  have hcomma (r : List Char) : Unicode.trimStart (space₃ ++ ',' :: r) = ',' :: r :=
    trimStart_space hspace₃ (startsOutside_cons (by decide))
  have hvalue (r : List Char) : Unicode.trimStart (space₄ ++ (literal ++ r)) = literal ++ r :=
    trimStart_space hspace₄ (hliteral.startsOutside_isBlank r)
  have hclose (r : List Char) : Unicode.trimStart (space₅ ++ ')' :: r) = ')' :: r :=
    trimStart_space hspace₅ (startsOutside_cons (by decide))
  simp only [readArguments, hopen, hat, readName_complete _ hrun (hname _), hcomma, hvalue,
    readLiteral_complete hliteral, hclose]

theorem IsFunction.isNameText {run : List Char} {test : String → AttrTest}
    (h : IsFunction run test) :
  IsNameText run
  := by
  cases h <;> exact isNameText_of_all (by decide) (by decide)

theorem IsFunction.functionTest? {run : List Char} {test : String → AttrTest}
    (h : IsFunction run test) :
  functionTest? (String.ofList run) = some test
  := by
  cases h <;> rfl

/-- A text that starts with a function is read as a predicate that is one. -/
theorem IsFunction.readPredicate {run : List Char} {test : String → AttrTest}
    (h : IsFunction run test) (rest : List Char) :
  readPredicate (run ++ rest) = readFunctionPredicate (run ++ rest)
  := by
  have hnumber : readNumber (run ++ rest) = none := by
    cases h <;> exact readNumber_eq_none (startsOutside_cons (by decide))
  have hlast : dropPrefix? "last()".toList (run ++ rest) = none := by
    cases h <;> rfl
  unfold XPath.readPredicate
  simp only [hnumber, hlast]
  cases h <;> rfl

/-- A function is read if its arguments are. -/
theorem readFunctionPredicate_complete {function space₁ rest r : List Char} {name value : String}
    {test : String → AttrTest} (hfunction : IsFunction function test) (hspace₁ : IsSpace space₁)
    (harguments : readArguments (space₁ ++ '(' :: r) = .ok ((name, value), rest)) :
  readFunctionPredicate (function ++ (space₁ ++ '(' :: r)) = .ok (.attr name (test value), rest)
  := by
  have hname : StartsOutside isNameChar (space₁ ++ '(' :: r) :=
    startsOutside_space isNameChar_of_isBlank hspace₁ (startsOutside_cons (by decide))
  simp only [readFunctionPredicate, readName_complete _ hfunction.isNameText hname,
    hfunction.functionTest?, harguments]

theorem IsPredicate.startsOutside_isBlank {text : List Char} {p : Predicate}
    (h : IsPredicate text p) (rest : List Char) :
  StartsOutside Unicode.isBlank (text ++ rest)
  := by
  cases h with
  | position hn => exact XPath.startsOutside_isBlank isDigit_of_isBlank hn.nonempty hn.chars rest
  | last => exact startsOutside_cons (by decide)
  | present => exact startsOutside_cons (by decide)
  | comparison => exact startsOutside_cons (by decide)
  | function hfunction => cases hfunction <;> exact startsOutside_cons (by decide)

/-- A predicate that is followed by a bracket, possibly after white space, is read; that white space
may be read with it. -/
theorem readPredicate_complete {text space : List Char} {p : Predicate} (h : IsPredicate text p)
    (hspace : IsSpace space) (rest : List Char) :
  ∃ r, readPredicate (text ++ (space ++ ']' :: rest)) = .ok (p, r) ∧
    Unicode.trimStart r = ']' :: rest
  := by
  have hbracket : Unicode.trimStart (space ++ ']' :: rest) = ']' :: rest :=
    trimStart_space hspace (startsOutside_cons (by decide))
  have hbracket' : Unicode.trimStart (']' :: rest) = ']' :: rest :=
    trimStart_of_startsOutside (startsOutside_cons (by decide))
  cases h with
  | @position _ n hn =>
      have hdigit : StartsOutside Char.isDigit (space ++ ']' :: rest) :=
        startsOutside_space isDigit_of_isBlank hspace (startsOutside_cons (by decide))
      have hpos : n ≠ 0 := Nat.ne_of_gt hn.pos
      refine ⟨space ++ ']' :: rest, ?_, hbracket⟩
      simp only [readPredicate, readNumber_complete hn hdigit, if_neg hpos]
  | last =>
      have hnumber : readNumber ("last()".toList ++ (space ++ ']' :: rest)) = none :=
        readNumber_eq_none (startsOutside_cons (by decide))
      refine ⟨space ++ ']' :: rest, ?_, hbracket⟩
      simp only [readPredicate, hnumber, dropPrefix?_append]
  | @present name hname =>
      have hnumber : readNumber ('@' :: (name ++ (space ++ ']' :: rest))) = none :=
        readNumber_eq_none (startsOutside_cons (by decide))
      have hlast : dropPrefix? "last()".toList ('@' :: (name ++ (space ++ ']' :: rest))) = none :=
        rfl
      refine ⟨']' :: rest, ?_, hbracket'⟩
      simp only [List.cons_append, readPredicate, hnumber, hlast,
        readAttrPredicate_present hname hspace]
  | @comparison name space₁ sign space₂ literal value test hname hspace₁ hsign hspace₂ hliteral =>
      have hnumber (r : List Char) : readNumber ('@' :: r) = none :=
        readNumber_eq_none (startsOutside_cons (by decide))
      have hlast (r : List Char) : dropPrefix? "last()".toList ('@' :: r) = none := rfl
      refine ⟨space ++ ']' :: rest, ?_, hbracket⟩
      simp only [List.append_assoc, List.cons_append, readPredicate, hnumber, hlast,
        readAttrPredicate_comparison hname hspace₁ hsign hspace₂ hliteral]
  | @function function space₁ space₂ name space₃ space₄ literal space₅ value test hfunction hspace₁
      hspace₂ hname hspace₃ hspace₄ hliteral hspace₅ =>
      have hread := readFunctionPredicate_complete hfunction hspace₁
        (readArguments_complete hspace₁ hspace₂ hname hspace₃ hspace₄ hliteral hspace₅
          (space ++ ']' :: rest))
      refine ⟨space ++ ']' :: rest, ?_, hbracket⟩
      simp only [List.append_assoc, List.cons_append, List.nil_append]
      rw [← hread]
      exact hfunction.readPredicate _

end PageModel.XPath
