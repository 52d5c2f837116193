import PageModel.Proofs.XPath.Cursor
import PageModel.Proofs.XPath.Reading.Word

/-!
# Readers that agree

A reader by a cursor agrees with what is to be read of a text if from a cursor that stands before that
text it comes to the same, and leaves the cursor before what is left of the text or, if it fails, before
the place of the fault (`Cursor.Agrees`). Then the text was cut where it can be cut, and the cursor has
been nowhere but between characters. Rounds of reading that take some of the text away agree with reading
all of it, however many they are (`Cursor.agrees_rounds`). The movements of the cursor agree with what is
left of a text when its start is taken away, and so do the readers of names, literals and numbers that
are composed of them.
-/

namespace PageModel.XPath

/-! ### Bytes and cuts -/

theorem byteSize_cons (c : Char) (cs : List Char) :
  byteSize (c :: cs) = c.utf8Size + byteSize cs
  := rfl

theorem byteSize_append (cs ds : List Char) :
  byteSize (cs ++ ds) = byteSize cs + byteSize ds
  := by
  induction cs with
  | nil => exact (Nat.zero_add _).symm
  | cons c cs ih => rw [List.cons_append, byteSize_cons, byteSize_cons, ih, Nat.add_assoc]

theorem byteSize_pos {cs : List Char} (h : cs ≠ []) :
  0 < byteSize cs
  := by
  obtain ⟨c, cs, rfl⟩ := List.exists_cons_of_ne_nil h
  rw [byteSize_cons]
  exact Nat.add_pos_left c.utf8Size_pos _

/-- A text can be cut after each of its parts. -/
theorem cut?_append (before after : List Char) :
  cut? (byteSize before) (before ++ after) = some (before, after)
  := by
  induction before with
  | nil => cases after <;> rfl
  | cons c before ih =>
      have hpos := c.utf8Size_pos
      obtain ⟨n, hn⟩ : ∃ n, byteSize (c :: before) = n + 1 :=
        Nat.exists_eq_add_one.2 (byteSize_pos (List.cons_ne_nil c before))
      have hrest : n + 1 - c.utf8Size = byteSize before := by
        rw [← hn, byteSize_cons, Nat.add_sub_cancel_left]
      have hle : c.utf8Size ≤ n + 1 := by
        rw [← hn, byteSize_cons]
        apply Nat.le_add_right
      rw [hn, List.cons_append, cut?, if_pos hle, hrest, ih]
      rfl

/-- Where a text can be cut, its parts are those of its characters. -/
theorem eq_append_of_cut? {n : Nat} {cs before after : List Char}
    (h : cut? n cs = some (before, after)) :
  cs = before ++ after ∧ byteSize before = n
  := by
  fun_induction cut? n cs generalizing before with
  | case1 cs =>
      cases h
      exact ⟨rfl, rfl⟩
  | case2 => cases h
  | case3 n c cs hle ih =>
      obtain ⟨⟨before, after⟩, hcut, ⟨⟩⟩ := Option.map_eq_some_iff.1 h
      obtain ⟨rfl, hsize⟩ := ih hcut
      refine ⟨rfl, ?_⟩
      rw [byteSize_cons, hsize]
      omega
  | case4 => cases h

/-- The numbers of bytes that some of the characters at the start of a text have. -/
def IsBoundary (source : List Char) (n : Nat) : Prop :=
  ∃ before after, source = before ++ after ∧ byteSize before = n

/-- A text can be cut at its boundaries and nowhere else. -/
theorem isSome_cut?_iff {source : List Char} {n : Nat} :
  (cut? n source).isSome = true ↔ IsBoundary source n
  := by
  rw [Option.isSome_iff_exists]
  constructor
  · rintro ⟨⟨before, after⟩, h⟩
    exact ⟨before, after, eq_append_of_cut? h⟩
  · rintro ⟨before, after, rfl, rfl⟩
    exact ⟨_, cut?_append before after⟩

example : (List.range 4).filter (fun n => (cut? n ['é', '/']).isSome) = [0, 2, 3] := by decide

theorem utf8ByteSize_ofList (cs : List Char) :
  (String.ofList cs).utf8ByteSize = byteSize cs
  := by
  induction cs with
  | nil => rfl
  | cons c cs ih =>
      rw [← List.singleton_append, String.ofList_append, String.utf8ByteSize_append, ih,
        byteSize_append]
      simp only [String.ofList_cons, String.ofList_nil, String.append_empty,
        String.utf8ByteSize_singleton]
      rfl

/-- They are the places in a string that are between characters of its encoding. -/
theorem isBoundary_iff_isValid {s : String} {n : Nat} :
  IsBoundary s.toList n ↔ (String.Pos.Raw.mk n).IsValid s
  := by
  rw [String.Pos.Raw.isValid_iff_exists_append]
  constructor
  · rintro ⟨before, after, happend, rfl⟩
    use String.ofList before, String.ofList after
    constructor
    · rw [← String.ofList_append, ← happend, String.ofList_toList]
    · rw [String.Pos.Raw.ext_iff, String.byteIdx_rawEndPos, utf8ByteSize_ofList]
  · rintro ⟨before, after, rfl, hpos⟩
    use before.toList, after.toList, String.toList_append
    rw [← utf8ByteSize_ofList, String.ofList_toList]
    exact (congrArg String.Pos.Raw.byteIdx hpos).symm

namespace Cursor

variable {source r r' : List Char} {α β : Type}

/-! ### Agreement -/

/-- The relation of a cursor with the text before which it stands, when it has been between characters
only. -/
structure StandsBefore (source r : List Char) (c : Cursor) : Prop where
  pos : ∃ before, source = before ++ r ∧ byteSize before = c.pos
  past : ∀ n ∈ c.past, IsBoundary source n

/-- The relation of a reader and a cursor with what is to be read. -/
def Reads (source : List Char) (x : Reader α) (c : Cursor) : Reading α → Prop
  | .ok (a, r) => ∃ c', (.ok a, c') ∈ x.runFrom c ∧ c'.StandsBefore source r
  | .error (reason, r) =>
      ∃ c', (.error (.fault ⟨reason, c'.pos⟩), c') ∈ x.runFrom c ∧ c'.StandsBefore source r

/-- The relation of a reader with what is to be read of a text. -/
def Agrees (source : List Char) (x : Reader α) (r : List Char) (y : Reading α) : Prop :=
  ∀ c : Cursor, c.StandsBefore source r → Reads source x c y

theorem StandsBefore.isBoundary {c : Cursor} (h : c.StandsBefore source r) :
  ∀ n ∈ c.pos :: c.past, IsBoundary source n
  := by
  intro n hn
  rcases List.mem_cons.1 hn with rfl | hn
  · obtain ⟨before, hsource, hpos⟩ := h.pos
    exact ⟨before, r, hsource, hpos⟩
  · apply h.past n hn

/-- What is before a cursor and what is after it are all of the text. -/
theorem StandsBefore.pos_add {c : Cursor} (h : c.StandsBefore source r) :
  c.pos + byteSize r = byteSize source
  := by
  obtain ⟨before, rfl, hpos⟩ := h.pos
  rw [byteSize_append, hpos]

/-- A cursor that is moved to the place before another part of the text. -/
theorem StandsBefore.move {c : Cursor} (h : c.StandsBefore source r) {before : List Char}
    (hsource : source = before ++ r') :
  StandsBefore source r' ⟨byteSize before, c.pos :: c.past⟩
  := ⟨⟨before, hsource, rfl⟩, h.isBoundary⟩

theorem Reads.of_runFrom_eq {x x' : Reader α} {c c' : Cursor} {y : Reading α}
    (h : Reads source x c y) (hrun : x'.runFrom c' = x.runFrom c) :
  Reads source x' c' y
  := by
  rcases y with e | b <;> simpa only [Reads, hrun] using h

theorem agrees_pure (a : α) :
  Agrees source (pure a) r (.ok (a, r))
  := fun c h => ⟨c, Process.runFrom_pure a c, h⟩

theorem Agrees.bind_ok {x : Reader α} {f : α → Reader β} {a : α} {y : Reading β}
    (hx : Agrees source x r (.ok (a, r'))) (hf : Agrees source (f a) r' y) :
  Agrees source (x >>= f) r y
  := by
  intro c hc
  obtain ⟨c', hrun, hc'⟩ := hx c hc
  apply (hf c' hc').of_runFrom_eq (Process.runFrom_bind_ok hrun)

theorem Agrees.bind_error {x : Reader α} {f : α → Reader β} {e : Reason × List Char}
    (hx : Agrees source x r (.error e)) :
  Agrees source (x >>= f) r (.error e)
  := by
  intro c hc
  obtain ⟨c', hrun, hc'⟩ := hx c hc
  exact ⟨c', Process.runFrom_bind_error hrun, hc'⟩

/-- A reader followed by another: what it comes to decides on what is to be read in all. -/
theorem Agrees.bind {x : Reader α} {f : α → Reader β} {y : Reading α} {z : Reading β}
    (hx : Agrees source x r y) (herror : ∀ e, y = .error e → z = .error e)
    (hok : ∀ a r', y = .ok (a, r') → Agrees source (f a) r' z) :
  Agrees source (x >>= f) r z
  := by
  rcases y with e | ⟨a, r'⟩
  · rw [herror e rfl]
    apply hx.bind_error
  · apply hx.bind_ok (hok a r' rfl)

theorem Agrees.of_append {x : Reader α} {y : Reading α}
    (h : ∀ before, source = before ++ r → Agrees source x r y) :
  Agrees source x r y
  := by
  intro c hc
  obtain ⟨before, hsource, -⟩ := hc.pos
  apply h before hsource c hc

theorem runFrom_position (c : Cursor) :
  (.ok c.pos, c) ∈ position.runFrom c
  := by
  rw [position, Process.runFrom_bind_ok (Process.runFrom_get c)]
  apply Process.runFrom_pure

/-- A reader that goes on from the number of bytes before the text. -/
theorem Agrees.of_pos {f : Nat → Reader α} {y : Reading α}
    (h : ∀ before, source = before ++ r → Agrees source (f (byteSize before)) r y) :
  Agrees source (position >>= f) r y
  := by
  intro c hc
  obtain ⟨before, hsource, hpos⟩ := hc.pos
  have hrun := Process.runFrom_bind_ok (runFrom_position c) (f := f)
  rw [← hpos] at hrun
  apply (h before hsource c hc).of_runFrom_eq hrun

theorem agrees_fail (reason : Reason) :
  Agrees source (fail reason : Reader α) r (.error (reason, r))
  := by
  intro c hc
  use c
  refine ⟨?_, hc⟩
  rw [fail, Process.runFrom_bind_ok (runFrom_position c)]
  apply Process.runFrom_throw

/-! ### Rounds -/

section Rounds

variable {σ : Type} {readRound : σ → List Char → Reading (β ⊕ σ)}

/-- Rounds of reading each of which takes some of the text away if another is to follow. -/
def TakesAway (readRound : σ → List Char → Reading (β ⊕ σ)) : Prop :=
  ∀ s r s' rest, readRound s r = .ok (.inr s', rest) → ∃ text, text ≠ [] ∧ r = text ++ rest

/-- The relation of what is to be read in all with what is to be read in a round. -/
def InRounds (readRound : σ → List Char → Reading (β ⊕ σ)) (readAll : σ → List Char → Reading β) :
    Prop :=
  ∀ s r, readAll s r =
    match readRound s r with
    | .error e => .error e
    | .ok (.inl b, rest) => .ok (b, rest)
    | .ok (.inr s', rest) => readAll s' rest

/-- Rounds that leave the cursor further than it was if another is to follow. -/
def Progresses (source : List Char) (round : Reader (β ⊕ σ)) : Prop :=
  ∀ (c c' : Cursor) (s : σ), (∀ n ∈ c.pos :: c.past, IsBoundary source n) →
    (.ok (.inr s), c') ∈ round.runFrom c → c.pos < c'.pos

variable {round : σ → Reader (β ⊕ σ)} {readAll : σ → List Char → Reading β}
  (hround : ∀ s r, Agrees source (round s) r (readRound s r)) (htakes : TakesAway readRound)

include hround htakes

/-- Rounds come to an end, since the text does: with every round that another follows it gets
shorter. -/
theorem agrees_rounds (hall : InRounds readRound readAll) (s : σ) (r : List Char) :
  Agrees source (Process.rounds round s) r (readAll s r)
  := by
  -- By induction on the length of the text that is left: nothing bounds the number of rounds as such.
  induction hlength : r.length using Nat.strong_induction_on generalizing s r with
  | _ length ih =>
    intro c hc
    have hread := hround s r c hc
    rw [hall]
    rcases hy : readRound s r with ⟨reason, rest⟩ | ⟨b | s', rest⟩
    · rw [hy] at hread
      obtain ⟨c', hrun, hc'⟩ := hread
      exact ⟨c', Process.runFrom_rounds_error hrun, hc'⟩
    · rw [hy] at hread
      obtain ⟨c', hrun, hc'⟩ := hread
      exact ⟨c', Process.runFrom_rounds_last hrun, hc'⟩
    · rw [hy] at hread
      obtain ⟨c', hrun, hc'⟩ := hread
      obtain ⟨text, hne, rfl⟩ := htakes s r s' rest hy
      have hless : rest.length < length := by
        rw [← hlength, List.length_append]
        apply Nat.lt_add_of_pos_left (List.length_pos_iff.2 hne)
      have hrest := ih rest.length hless s' rest rfl c' hc'
      apply hrest.of_runFrom_eq (Process.runFrom_rounds_again hrun)

/-- A round that takes some of the text away takes a byte at least. -/
theorem progresses_of_takesAway (s : σ) :
  Progresses source (round s)
  := by
  intro c c' s' hc hrun
  obtain ⟨before, r, hsource, hpos⟩ := hc c.pos List.mem_cons_self
  have hstands : c.StandsBefore source r :=
    ⟨⟨before, hsource, hpos⟩, fun n hn => hc n (List.mem_cons_of_mem _ hn)⟩
  have hread := hround s r c hstands
  rcases hy : readRound s r with ⟨reason, rest⟩ | ⟨found, rest⟩
  · rw [hy] at hread
    obtain ⟨c₁, hrun₁, -⟩ := hread
    cases Part.mem_unique hrun hrun₁
  · rw [hy] at hread
    obtain ⟨c₁, hrun₁, hc₁⟩ := hread
    cases Part.mem_unique hrun hrun₁
    obtain ⟨text, hne, rfl⟩ := htakes s r s' rest hy
    have hbefore := hstands.pos_add
    have hafter := hc₁.pos_add
    have hsize := byteSize_pos hne
    rw [byteSize_append] at hbefore
    omega

end Rounds

/-! ### Movements -/

theorem agrees_moveTo {before : List Char} (h : source = before ++ r') :
  Agrees source (moveTo (byteSize before)) r (.ok ((), r'))
  := fun _ hc => ⟨_, Process.runFrom_modify _ _, hc.move h⟩

theorem agrees_rest :
  Agrees source (rest source) r (.ok (r, r))
  := by
  apply Agrees.of_pos
  rintro before rfl
  rw [cut?_append]
  apply agrees_pure

theorem agrees_advance (run : List Char) :
  Agrees source (advance (byteSize run)) (run ++ r) (.ok ((), r))
  := by
  intro c hc
  obtain ⟨before, hsource, hpos⟩ := hc.pos
  rw [← List.append_assoc] at hsource
  have hmove := hc.move hsource
  rw [byteSize_append, hpos] at hmove
  exact ⟨_, Process.runFrom_modify _ _, hmove⟩

/-- The cursor stands at the end if and only if nothing is after it. -/
theorem agrees_atEnd :
  Agrees source (atEnd source) r (.ok (r.isEmpty, r))
  := by
  apply Agrees.of_pos
  rintro before rfl
  have hend : decide (byteSize (before ++ r) ≤ byteSize before) = r.isEmpty := by
    rw [byteSize_append, Bool.eq_iff_iff, decide_eq_true_eq, List.isEmpty_iff]
    constructor
    · intro hle
      by_contra hne
      have := byteSize_pos hne
      omega
    · rintro rfl
      exact Nat.le_refl _
  rw [hend]
  apply agrees_pure

theorem agrees_eat_append (sign r : List Char) :
  Agrees source (eat source sign) (sign ++ r) (.ok (true, r))
  := by
  apply agrees_rest.bind_ok
  rw [if_pos (List.isPrefixOf_iff_prefix.2 (List.prefix_append sign r))]
  apply (agrees_advance sign).bind_ok
  apply agrees_pure

theorem agrees_eat_of_ne {sign : List Char} (h : ∀ r', r ≠ sign ++ r') :
  Agrees source (eat source sign) r (.ok (false, r))
  := by
  apply agrees_rest.bind_ok
  rw [if_neg]
  · apply agrees_pure
  · intro hprefix
    obtain ⟨r', hr'⟩ := List.isPrefixOf_iff_prefix.1 hprefix
    apply h r' hr'.symm

theorem agrees_expect_append (sign : List Char) (otherwise : Reason) (r : List Char) :
  Agrees source (expect source sign otherwise) (sign ++ r) (.ok ((), r))
  := by
  apply (agrees_eat_append sign r).bind_ok
  apply agrees_pure

theorem agrees_expect_of_ne {sign : List Char} (otherwise : Reason) (h : ∀ r', r ≠ sign ++ r') :
  Agrees source (expect source sign otherwise) r (.error (otherwise, r))
  := by
  apply (agrees_eat_of_ne h).bind_ok
  apply agrees_fail

theorem agrees_skipSpace :
  Agrees source (skipSpace source) r (.ok ((), Unicode.trimStart r))
  := by
  apply Agrees.of_append
  intro before hsource
  obtain ⟨space, -, hspace⟩ := exists_space (Eq.refl (Unicode.trimStart r))
  have happend : source = (before ++ space) ++ Unicode.trimStart r := by
    rw [hsource, List.append_assoc, ← hspace]
  have hsize : byteSize source - byteSize (Unicode.trimStart r) = byteSize (before ++ space) := by
    rw [happend, byteSize_append (before ++ space), Nat.add_sub_cancel_right]
  apply agrees_rest.bind_ok
  rw [hsize]
  apply agrees_moveTo happend

theorem agrees_takeRun (p : Char → Bool) :
  Agrees source (takeRun source p) r (.ok (r.takeWhile p, r.dropWhile p))
  := by
  have happend : r.takeWhile p ++ r.dropWhile p = r := List.takeWhile_append_dropWhile
  have hadvance : Agrees source (advance (byteSize (r.takeWhile p)))
      (r.takeWhile p ++ r.dropWhile p) (.ok ((), r.dropWhile p)) := agrees_advance _
  have hcut := cut?_append (r.takeWhile p) (r.dropWhile p)
  rw [happend] at hadvance hcut
  apply agrees_rest.bind_ok
  apply hadvance.bind_ok
  rw [hcut]
  apply agrees_pure

/-! ### Names, literals and numbers -/

theorem agrees_name (otherwise : Reason) :
  Agrees source (name source otherwise) r (readName otherwise r)
  := by
  apply (agrees_takeRun isNameChar).bind_ok
  rw [readName]
  split
  · apply agrees_pure
  · apply agrees_fail

/-- The cursor is left before digits that are too large a number. -/
theorem agrees_number? :
  Agrees source (number? source) r
    (match readNumber r with
      | some (n, r) => .ok (some n, r)
      | none => .ok (none, r))
  := by
  apply Agrees.of_pos
  intro before hsource
  apply (agrees_takeRun Char.isDigit).bind_ok
  simp only [readNumber]
  split
  · next hempty =>
    have hnone : r.dropWhile Char.isDigit = r := by
      have happend := List.takeWhile_append_dropWhile (p := Char.isDigit) (l := r)
      rwa [List.isEmpty_iff.1 hempty, List.nil_append] at happend
    rw [hnone]
    apply agrees_pure
  · split
    · apply agrees_pure
    · apply (agrees_moveTo hsource).bind_ok
      apply agrees_pure

/-- Quotes are one byte long, so the cursor is between characters after one. -/
theorem agrees_literal :
  Agrees source (literal source) r (readLiteral r)
  := by
  apply agrees_rest.bind_ok
  cases r with
  | nil => apply agrees_fail
  | cons q r =>
      simp only [List.head?_cons, readLiteral]
      split
      · next hquote =>
        have hadvance : Agrees source (advance 1) (q :: r) (.ok ((), r)) := by
          rcases hquote with rfl | rfl
          · apply agrees_advance ['\'']
          · apply agrees_advance ['"']
        apply hadvance.bind_ok
        apply (agrees_takeRun (· != q)).bind_ok
        split
        · next hnil =>
          rw [hnil]
          apply (agrees_expect_of_ne _ _).bind_error
          rintro r' ⟨⟩
        · next d r' hstop =>
          have hd := startsOutside_dropWhile (· != q) r d (by rw [hstop]; rfl)
          obtain rfl : d = q := by simpa using hd
          rw [hstop]
          apply (agrees_expect_append [d] _ r').bind_ok
          apply agrees_pure
      · apply agrees_fail

end Cursor

end PageModel.XPath
