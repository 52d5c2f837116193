import PageModel.Proofs.Regex.Search

/-!
# Matches of a whole text

Where a set of characters is repeated greedily, a text of such characters has one match, which is the
whole text (`searchAll_many`). From the first place on there are two threads at every place: one that
has ended there and, preferred to it, one that waits for one more character (`manyThreads`). So the
match grows with every character, and after the last one the waiting thread fails. The empty match at
the end of the text does not count, as the match before it ends there too.
-/

namespace PageModel.Regex

variable {s : CharSet} {cs : List Char}

/-- The greedy repetition of a set of characters. -/
def Expr.many (s : CharSet) : Expr :=
  .repeated 0 none true (.set s)

/-- The threads, at the place `index`, of a match of a repeated set that began at the place `first`. -/
def manyThreads (s : CharSet) (first index : Nat) : List Thread :=
  [⟨[], #[some first, some index]⟩,
    ⟨[.expr (.set s), .loop true true (.set s), .slot 1], #[some first, none]⟩]

/-! ### Threads at a place -/

theorem threads_explore_startStack (p : Place) :
  (explore p #[none, none] (startStack (.many s)) .empty).threads = manyThreads s p.index p.index
  := by
  simp [explore, unfold, unfoldRepeated, Expr.mayBeEmpty, Expr.many, startStack, Unfolding.choice,
    Frontier.empty, manyThreads, resetStack, Frame.reset]

theorem threads_explore_loop (p : Place) (first : Nat) :
  (explore p #[some first, none] [.loop true false (.set s), .slot 1] .empty).threads
    = manyThreads s first p.index
  := by
  simp [explore, unfold, Unfolding.choice, Frontier.empty, manyThreads, resetStack, Frame.reset]

/-- A character of the set leads to the threads at the next place, and the match ends before it. -/
theorem advanceAll_manyThreads {c : Char} (hc : s.contains c = true) (next : Place)
    (first index : Nat) :
  ∃ seen, advanceAll (some c) next .empty (manyThreads s first index).reverse
    = (⟨manyThreads s first next.index, seen⟩, some #[some first, some index])
  := by
  use (explore next #[some first, none] [.loop true false (.set s), .slot 1] .empty).seen
  rw [← threads_explore_loop]
  simp [manyThreads, advanceAll, Thread.advance, hc, resetStack, Frame.reset]

theorem advanceAll_none_manyThreads (next : Place) (first index : Nat) :
  (advanceAll none next .empty (manyThreads s first index).reverse).2
    = some #[some first, some index]
  := rfl

/-! ### Searching -/

/-- A search that has the threads of a repeated set goes on to the end of the text. -/
theorem searchFrom_many (hcs : ∀ c ∈ cs, s.contains c = true) (start : List Frame) (slots : Slots)
    (index : Nat) (before : Option Char) (f : Frontier) (best : Option Slots) (first : Nat)
    (hthreads : (opened start slots index before f best cs).threads = manyThreads s first index) :
  searchFrom start slots index before f best cs = some #[some first, some (index + cs.length)]
  := by
  induction cs generalizing index before f best with
  | nil =>
      rw [searchFrom_nil, hthreads, advanceAll_none_manyThreads]
      rfl
  | cons c cs ih =>
      obtain ⟨hc, hcs⟩ := List.forall_mem_cons.1 hcs
      obtain ⟨seen, hadvance⟩ :=
        advanceAll_manyThreads hc (placeAt (index + 1) (some c) cs) first index
      -- The match that ends here is kept, so that no match is begun at a later place.
      have hrest := ih hcs (index + 1) (some c) ⟨manyThreads s first (index + 1), seen⟩
        (some #[some first, some index]) rfl
      rw [searchFrom_cons, hthreads, hadvance, List.length_cons, Nat.add_comm cs.length,
        ← Nat.add_assoc, ← hrest]
      rfl

theorem search_many (hcs : ∀ c ∈ cs, s.contains c = true) (index : Nat) (before : Option Char) :
  search (.many s) index before cs = some #[some index, some (index + cs.length)]
  := by
  apply searchFrom_many hcs
  apply threads_explore_startStack

/-- A text has one match of a repeated set that holds its characters. -/
theorem searchAll_many (hcs : ∀ c ∈ cs, s.contains c = true) :
  searchAll (.many s) cs = [#[some 0, some cs.length]]
  := by
  have hfirst : nextMatch (.many s) false 0 none cs = some #[some 0, some cs.length] := by
    simp [nextMatch, search_many hcs]
  have hnext (before : Option Char) : nextMatch (.many s) true cs.length before [] = none := by
    simp [nextMatch, search_many (List.forall_mem_nil _), endOf]
  rw [searchAll, allFrom, hfirst]
  simp [endOf, allFrom, hnext]

/-- The match of a whole text captures the text. -/
theorem groupText_whole (text : String) :
  groupText text.toList #[some 0, some text.toList.length] 0 = some text
  := by
  simp [groupText]

end PageModel.Regex
