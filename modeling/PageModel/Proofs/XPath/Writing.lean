import PageModel.Proofs.XPath.Meaning

/-!
# What is written of elements up to a limit

A path that is asked for its first text alone writes of one element after the other until there is a
text. With any limit, as many of the texts as the limit says are those that all elements write
(`Path.take_writeUpTo`), and what is written ends with the element that brings the texts to the limit,
whatever follows (`Path.writeUpTo_of_reaches`).
-/

namespace PageModel.XPath

open Html

namespace Path

variable (p : Path) {limit : Nat} {written : List String} {before : List Node} {e : Node}

/-! ### Up to a limit -/

/-- Below the limit it goes on with the next element. -/
theorem writeUpTo_cons_of_lt (ns : List Node) (h : (written ++ p.render e).length < limit) :
  p.writeUpTo limit written (e :: ns) = p.writeUpTo limit (written ++ p.render e) ns
  := by
  rw [writeUpTo, if_neg (Nat.not_le_of_lt h)]

/-- At the limit it ends. -/
theorem writeUpTo_cons_of_le (ns : List Node) (h : limit ≤ (written ++ p.render e).length) :
  p.writeUpTo limit written (e :: ns) = written ++ p.render e
  := by
  rw [writeUpTo, if_pos h]

/-- Up to the limit the texts are those that all elements write. -/
theorem take_writeUpTo (limit : Nat) (written : List String) (ns : List Node) :
  (p.writeUpTo limit written ns).take limit = (written ++ ns.flatMap p.render).take limit
  := by
  induction ns generalizing written with
  | nil => rw [writeUpTo, List.flatMap_nil, List.append_nil]
  | cons n ns ih =>
      rw [List.flatMap_cons, ← List.append_assoc]
      rcases Nat.lt_or_ge (written ++ p.render n).length limit with hbelow | hreached
      · rw [p.writeUpTo_cons_of_lt ns hbelow]
        apply ih
      · rw [p.writeUpTo_cons_of_le ns hreached]
        symm
        apply List.take_append_of_le_length hreached

/-- Elements that stay below the limit are written in full. -/
theorem writeUpTo_append (ns : List Node)
    (h : (written ++ before.flatMap p.render).length < limit) :
  p.writeUpTo limit written (before ++ ns)
    = p.writeUpTo limit (written ++ before.flatMap p.render) ns
  := by
  induction before generalizing written with
  | nil => rw [List.flatMap_nil, List.append_nil, List.nil_append]
  | cons n before ih =>
      rw [List.flatMap_cons, ← List.append_assoc] at h ⊢
      have hbelow : (written ++ p.render n).length < limit := by
        apply Nat.lt_of_le_of_lt _ h
        apply List.Sublist.length_le
        apply List.sublist_append_left
      rw [List.cons_append, p.writeUpTo_cons_of_lt _ hbelow]
      apply ih h

/-- What is written ends with the element that brings the texts to the limit, whatever follows. -/
theorem writeUpTo_of_reaches (after : List Node)
    (hbelow : (written ++ before.flatMap p.render).length < limit)
    (hreached : limit ≤ (written ++ before.flatMap p.render ++ p.render e).length) :
  p.writeUpTo limit written (before ++ e :: after)
    = written ++ before.flatMap p.render ++ p.render e
  := by
  rw [p.writeUpTo_append _ hbelow]
  apply p.writeUpTo_cons_of_le after hreached

/-! ### The first text -/

/-- What is selected first is the first of all that is selected. -/
theorem select_eq_head? (text : String) :
  p.select text = (p.selectAll text).head?
  := by
  have hfirst := p.take_writeUpTo 1 [] (p.evaluate (Html.parse text))
  have hhead := congrArg List.head? hfirst
  rwa [List.head?_take, List.head?_take, if_neg Nat.one_ne_zero, if_neg Nat.one_ne_zero] at hhead

/-- What a path of one step selects, if the step takes elements in the order in which they were made. -/
theorem selectAll_of_taken {p : Path} {s : Step} {text : String}
    {taken : List (Nat × List String)} (hsteps : p.steps = [s])
    (htaken : (locatedRoot? (Html.parse text)).map (fun root =>
      ((s.firstCandidates root).filter s.accepts).map fun e => (e.node.id, p.render e.node))
      = some taken)
    (hmade : taken.Pairwise (·.1 < ·.1)) :
  p.selectAll text = taken.flatMap (·.2)
  := by
  rw [selectAll, selectAllIn, List.flatMap_def, List.flatMap_def,
    map_evaluate_of_taken p.render hsteps htaken hmade]

end Path

end PageModel.XPath
