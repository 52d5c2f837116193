import PageModel.Regex.Expr

/-!
# Finding matches

A search keeps, at every place of the text, the list of what may still follow: stacks of frames,
the preferred ones first. A stack is unfolded until it waits for a character or is empty, which
is a match. Of two stacks that lead to the same ends the second is dropped, since the first is
preferred; so the work at a place is bounded by the expression. For the same reason a loop is left
where a round of it has matched nothing: the round has been begun at that place already.
-/

namespace PageModel.Regex

/-- What is still to be matched: an expression, the recording of a place, or a loop that is to be
left or gone through again. A loop that has been entered at this place can only be left before a
character is read. -/
inductive Frame where
  | expr (e : Expr)
  | slot (i : Nat)
  | loop (greedy : Bool) (entered : Bool) (e : Expr)
deriving Repr, DecidableEq

/-- A frame after a character has been read: every loop may be entered again. -/
def Frame.reset : Frame → Frame
  | .loop greedy _ e => .loop greedy false e
  | f => f

/-- A stack after a character has been read. -/
def resetStack (stack : List Frame) : List Frame :=
  stack.map Frame.reset

theorem resetStack_cons (f : Frame) (fs : List Frame) :
  resetStack (f :: fs) = f.reset :: resetStack fs
  := rfl

/-- A bound on the work of unfolding an expression. -/
def Expr.weight : Expr → Nat
  | .empty => 1
  | .set _ => 1
  | .anchor _ => 1
  | .group _ e => e.weight + 3
  | .cat a b => a.weight + b.weight + 1
  | .alt a b => a.weight + b.weight + 1
  | .repeated min max _ e => (min + max.getD 0 + 3) * (e.weight + 2)

/-- A bound on the work of unfolding a frame. -/
def Frame.weight : Frame → Nat
  | .expr e => e.weight
  | .slot _ => 1
  | .loop _ true _ => 1
  | .loop _ false e => e.weight + 2

/-- A bound on the work of unfolding a stack. -/
def stackWeight : List Frame → Nat
  | [] => 0
  | f :: fs => f.weight + stackWeight fs

/-- The places recorded: of group `i` the start at `2 * i` and the end at `2 * i + 1`. -/
abbrev Slots := Array (Option Nat)

/-- A stack with the places that were recorded on the way to it. -/
structure Thread where
  stack : List Frame
  slots : Slots
deriving Inhabited

/-- The threads at a place, the preferred ones first in `threads` reversed, and the stacks that
have been unfolded there, as they are when a character has been read. -/
structure Frontier where
  threads : List Thread
  seen : List (List Frame)

/-- The frontier without threads. -/
def Frontier.empty : Frontier :=
  ⟨[], []⟩

/-- A place in a text. -/
structure Place where
  index : Nat
  before : Option Char
  after : Option Char

/-- What the frame on top of a stack unfolds to: a thread that is ready, one stack, or two of
which the first is preferred. -/
inductive Unfolding where
  | ready
  | dead
  | one (stack : List Frame)
  | record (slot : Nat) (stack : List Frame)
  | two (preferred other : List Frame)

/-- Two ways on, in the order that a greedy or a lazy operator prefers. -/
def Unfolding.choice (greedy : Bool) (again leave : List Frame) : Unfolding :=
  if greedy then .two again leave else .two leave again

/-- The unfolding of a repetition, over the stack below it. -/
def unfoldRepeated (min : Nat) (max : Option Nat) (greedy : Bool) (e : Expr)
    (below : List Frame) : Unfolding :=
  match min, max with
  | 0, some 0 => .one below
  | _ + 1, some 0 => .dead
  | 0, some (m + 1) =>
      .choice greedy (.expr e :: .expr (.repeated 0 (some m) greedy e) :: below) below
  | n + 1, some (m + 1) => .one (.expr e :: .expr (.repeated n (some m) greedy e) :: below)
  | 0, none =>
      if e.mayBeEmpty then .choice greedy (.expr e :: .loop greedy true e :: below) below
      else .one (.loop greedy false e :: below)
  | 1, none => .one (.expr e :: .loop greedy true e :: below)
  | n + 2, none => .one (.expr e :: .expr (.repeated (n + 1) none greedy e) :: below)

/-- The unfolding of a stack at a place. -/
def unfold (p : Place) : List Frame → Unfolding
  | [] => .ready
  | .slot i :: below => .record i below
  | .loop _ true _ :: below => .one below
  | .loop greedy false e :: below => .choice greedy (.expr e :: .loop greedy true e :: below) below
  | .expr e :: below =>
      match e with
      | .empty => .one below
      | .set _ => .ready
      | .anchor a => if a.holds p.before p.after then .one below else .dead
      | .group i e => .one (.slot (2 * i) :: .expr e :: .slot (2 * i + 1) :: below)
      | .cat a b => .one (.expr a :: .expr b :: below)
      | .alt a b => .two (.expr a :: below) (.expr b :: below)
      | .repeated min max greedy e => unfoldRepeated min max greedy e below

/-! ### Unfolding comes to an end -/

/-- Whether the stacks of an unfolding weigh less than a number. -/
def Unfolding.lighter (n : Nat) : Unfolding → Prop
  | .ready => True
  | .dead => True
  | .one s => stackWeight s < n
  | .record _ s => stackWeight s < n
  | .two s t => stackWeight s < n ∧ stackWeight t < n

theorem choice_lighter {greedy : Bool} {again leave : List Frame} {n : Nat}
    (ha : stackWeight again < n) (hl : stackWeight leave < n) :
  (Unfolding.choice greedy again leave).lighter n
  := by
  cases greedy
  · exact ⟨hl, ha⟩
  · exact ⟨ha, hl⟩

theorem stackWeight_cons (f : Frame) (fs : List Frame) :
  stackWeight (f :: fs) = f.weight + stackWeight fs
  := rfl

theorem unfoldRepeated_lighter (min : Nat) (max : Option Nat) (greedy : Bool) (e : Expr)
    (below : List Frame) :
  (unfoldRepeated min max greedy e below).lighter
    ((Expr.repeated min max greedy e).weight + stackWeight below)
  := by
  -- what is left to do has a round less, or is a loop, whose weight does not depend on the rounds
  match min, max with
  | 0, some 0 =>
      simp only [unfoldRepeated, Unfolding.lighter, Expr.weight, Option.getD_some, Nat.add_mul]
      omega
  | _ + 1, some 0 => trivial
  | 0, some (m + 1) =>
      simp only [unfoldRepeated, Expr.weight, Option.getD_some, Nat.add_mul]
      apply choice_lighter
      · simp only [stackWeight_cons, Frame.weight, Expr.weight, Option.getD_some, Nat.add_mul]
        omega
      · omega
  | n + 1, some (m + 1) =>
      simp only [unfoldRepeated, Unfolding.lighter, stackWeight_cons, Frame.weight, Expr.weight,
        Option.getD_some, Nat.add_mul]
      omega
  | 0, none =>
      simp only [unfoldRepeated, Expr.weight, Option.getD_none]
      split
      · apply choice_lighter
        · simp only [stackWeight_cons, Frame.weight]
          omega
        · omega
      · simp only [Unfolding.lighter, stackWeight_cons, Frame.weight]
        omega
  | 1, none =>
      simp only [unfoldRepeated, Unfolding.lighter, stackWeight_cons, Frame.weight, Expr.weight,
        Option.getD_none]
      omega
  | n + 2, none =>
      simp only [unfoldRepeated, Unfolding.lighter, stackWeight_cons, Frame.weight, Expr.weight,
        Option.getD_none, Nat.add_mul]
      omega

theorem unfold_lighter (p : Place) (stack : List Frame) :
  (unfold p stack).lighter (stackWeight stack)
  := by
  match stack with
  | [] => trivial
  | .slot i :: below =>
      simp only [unfold, Unfolding.lighter, stackWeight_cons, Frame.weight]
      omega
  | .loop _ true _ :: below =>
      simp only [unfold, Unfolding.lighter, stackWeight_cons, Frame.weight]
      omega
  | .loop greedy false e :: below =>
      apply choice_lighter <;> simp only [stackWeight_cons, Frame.weight] <;> omega
  | .expr e :: below =>
      cases e with
      | empty =>
        simp only [unfold, Unfolding.lighter, stackWeight_cons, Frame.weight, Expr.weight]
        omega
      | set s => trivial
      | anchor a =>
        simp only [unfold]
        split
        · simp only [Unfolding.lighter, stackWeight_cons, Frame.weight, Expr.weight]
          omega
        · trivial
      | group i e =>
        simp only [unfold, Unfolding.lighter, stackWeight_cons, Frame.weight, Expr.weight]
        omega
      | cat a b =>
        simp only [unfold, Unfolding.lighter, stackWeight_cons, Frame.weight, Expr.weight]
        omega
      | alt a b =>
        simp only [unfold, Unfolding.lighter, stackWeight_cons, Frame.weight, Expr.weight]
        omega
      | repeated min max greedy e =>
        have := unfoldRepeated_lighter min max greedy e below
        rw [stackWeight_cons]
        exact this

/-! ### Searching -/

/-- The frontier with a stack unfolded to threads. -/
def explore (p : Place) (slots : Slots) (stack : List Frame) (f : Frontier) : Frontier :=
  if f.seen.contains (resetStack stack) then f
  else
    let f := { f with seen := resetStack stack :: f.seen }
    have hl := unfold_lighter p stack
    match hu : unfold p stack with
    | .ready => { f with threads := ⟨stack, slots⟩ :: f.threads }
    | .dead => f
    | .one s =>
        have : stackWeight s < stackWeight stack := by
          rw [hu] at hl
          exact hl
        explore p slots s f
    | .record i s =>
        have : stackWeight s < stackWeight stack := by
          rw [hu] at hl
          exact hl
        explore p (slots.setIfInBounds i (some p.index)) s f
    | .two s t =>
        have : stackWeight s < stackWeight stack := by
          rw [hu] at hl
          exact hl.1
        have : stackWeight t < stackWeight stack := by
          rw [hu] at hl
          exact hl.2
        explore p slots t (explore p slots s f)
termination_by stackWeight stack

/-- What a thread does with the next character. -/
inductive Advance where
  | found (slots : Slots)
  | waits (stack : List Frame) (slots : Slots)
  | fails

/-- The advance of a thread. -/
def Thread.advance (t : Thread) (c : Option Char) : Advance :=
  match t.stack with
  | [] => .found t.slots
  | .expr (.set s) :: below =>
      if c.any s.contains then .waits (resetStack below) t.slots else .fails
  | _ => .fails

/-- The threads, preferred ones first, advanced to the next place: the frontier there, and the
match if a thread has reached one. The threads after that one are given up. -/
def advanceAll (c : Option Char) (next : Place) (f : Frontier) :
    List Thread → Frontier × Option Slots
  | [] => (f, none)
  | t :: ts =>
      match t.advance c with
      | .found slots => (f, some slots)
      | .waits stack slots => advanceAll c next (explore next slots stack f) ts
      | .fails => advanceAll c next f ts

/-- The place before the first character of a text. -/
def placeAt (index : Nat) (before : Option Char) (cs : List Char) : Place :=
  ⟨index, before, cs.head?⟩

/-- The best match of a search that goes on at a place, `best` being the best so far. As long as
there is none, a match may start at every place. -/
def searchFrom (start : List Frame) (slots : Slots) (index : Nat) (before : Option Char)
    (f : Frontier) (best : Option Slots) (cs : List Char) : Option Slots :=
  let f := if best.isNone then explore (placeAt index before cs) slots start f else f
  match cs with
  | [] => (advanceAll none (placeAt (index + 1) none []) .empty f.threads.reverse).2.or best
  | c :: rest =>
      let (f, found) :=
        advanceAll (some c) (placeAt (index + 1) (some c) rest) .empty f.threads.reverse
      let best := found.or best
      if f.threads.isEmpty && best.isSome then best
      else searchFrom start slots (index + 1) (some c) f best rest

/-- The stack that matches an expression as group zero. -/
def startStack (e : Expr) : List Frame :=
  [.slot 0, .expr e, .slot 1]

/-- The first match of an expression in a text that starts at `index`, after the character
`before`. -/
def search (e : Expr) (index : Nat) (before : Option Char) (cs : List Char) : Option Slots :=
  let slots := Array.replicate (2 * e.groupCount) none
  searchFrom (startStack e) slots index before .empty none cs

/-- Whether an expression has a match in a text. -/
def isMatch (e : Expr) (text : String) : Bool :=
  (search e 0 none text.toList).isSome

/-! ### All matches -/

/-- The place where a match ends. -/
def endOf (slots : Slots) : Nat :=
  (slots[1]?.join).getD 0

/-- The next match from a place on. Where `skipEmpty` holds, an empty match at the place itself is
passed over. -/
def nextMatch (e : Expr) (skipEmpty : Bool) (index : Nat) (before : Option Char)
    (cs : List Char) : Option Slots :=
  match search e index before cs with
  | none => none
  | some slots =>
      if skipEmpty && endOf slots == index then
        match cs with
        | [] => none
        | c :: rest => search e (index + 1) (some c) rest
      else
        some slots

/-- The matches in a text from a place on, at most `bound` of them, each starting where the one
before ends. -/
def allFrom (e : Expr) : (bound : Nat) → (skipEmpty : Bool) → (index : Nat) →
    (before : Option Char) → List Char → List Slots
  | 0, _, _, _, _ => []
  | bound + 1, skipEmpty, index, before, cs =>
      match nextMatch e skipEmpty index before cs with
      | none => []
      | some slots =>
          let n := endOf slots - index
          let previous := if n = 0 then before else cs[n - 1]?
          slots :: allFrom e bound true (endOf slots) previous (cs.drop n)

/-- All matches of an expression in a text. After the first, each ends farther than the one
before, so there are at most two more of them than characters. -/
def searchAll (e : Expr) (text : List Char) : List Slots :=
  allFrom e (text.length + 2) false 0 none text

/-- The text of a group of a match. -/
def groupText (text : List Char) (slots : Slots) (group : Nat) : Option String :=
  match slots[2 * group]?.join, slots[2 * group + 1]?.join with
  | some i, some j => some (String.ofList ((text.drop i).take (j - i)))
  | _, _ => none

end PageModel.Regex
