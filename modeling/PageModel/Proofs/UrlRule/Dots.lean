import Mathlib.Tactic.Use
import PageModel.Proofs.UrlRule.Anchoring
import PageModel.Proofs.UrlRule.Glob

/-!
# Dots of a glob

A glob puts a backslash before each of its dots, also before one that has a backslash already. The two
backslashes are then read as one that stands for itself, and the dot after them as one that stands for
any character. So a URL that matches has the dots that are escaped nowhere in the glob (`bareChars`),
and a backslash for each of the others (`escapedChars`).

This is shown for globs in which nothing but escapes and asterisks bears on what a character means. Such
a glob is read part by part (`GlobPart`): an escape with the characters that it takes in, or a character
by itself.
-/

namespace PageModel

open Regex

/-- The characters that start or end groups, classes, alternatives and bounds, and the signs of
repetitions other than the asterisk. -/
def structuralChars : List Char :=
  ['|', '(', ')', '[', ']', '\x7b', '\x7d', '?', '+']

/-! ### Bare and escaped characters -/

/-- The characters of a glob that belong to no escape. -/
def bareChars : List Char → List Char
  | [] => []
  | '\\' :: _ :: glob => bareChars glob
  | c :: glob => c :: bareChars glob

/-- The characters of a glob that follow the backslash of an escape. -/
def escapedChars : List Char → List Char
  | [] => []
  | '\\' :: c :: glob => c :: escapedChars glob
  | _ :: glob => escapedChars glob

theorem bareChars_escape (c : Char) (glob : List Char) :
  bareChars ('\\' :: c :: glob) = bareChars glob
  := rfl

theorem escapedChars_escape (c : Char) (glob : List Char) :
  escapedChars ('\\' :: c :: glob) = c :: escapedChars glob
  := rfl

theorem bareChars_append {part : List Char} (hpart : '\\' ∉ part) (glob : List Char) :
  bareChars (part ++ glob) = part ++ bareChars glob
  := by
  induction part with
  | nil => rfl
  | cons c part ih =>
      rw [List.mem_cons, not_or] at hpart
      obtain ⟨hc, hpart⟩ := hpart
      rw [List.cons_append, bareChars, ih hpart]
      · rfl
      · rintro _ _ rfl
        exact absurd rfl hc

theorem escapedChars_append {part : List Char} (hpart : '\\' ∉ part) (glob : List Char) :
  escapedChars (part ++ glob) = escapedChars glob
  := by
  induction part with
  | nil => rfl
  | cons c part ih =>
      rw [List.mem_cons, not_or] at hpart
      obtain ⟨hc, hpart⟩ := hpart
      rw [List.cons_append, escapedChars, ih hpart]
      rintro _ _ rfl
      exact absurd rfl hc

/-- Every character other than the backslash is bare or escaped. -/
theorem count_bareChars_add_count_escapedChars {d : Char} (hd : d ≠ '\\') (glob : List Char) :
  (bareChars glob).count d + (escapedChars glob).count d = glob.count d
  := by
  fun_induction bareChars glob with
  | case1 => rfl
  | case2 c glob ih =>
      rw [escapedChars_escape, List.count_cons_of_ne hd.symm, List.count_cons, List.count_cons, ← ih,
        Nat.add_assoc]
  | case3 c glob hescape ih =>
      rw [escapedChars, List.count_cons, List.count_cons, ← ih, Nat.add_right_comm]
      exact hescape

/-! ### Parts of a glob -/

/-- `GlobPart part es` says that a part of a glob may be read as the given items. Where dots are not
concerned, nothing is said of the items. -/
inductive GlobPart : (part : List Char) → (es : List Expr) → Prop where
  | dot : GlobPart ['.'] [.set (.single '.')]
  | escapedDot (any : Expr) : GlobPart ['\\', '.'] [.set (.single '\\'), any]
  | char {c : Char} (hdot : c ≠ '.') (hslash : c ≠ '\\') (e : Expr) : GlobPart [c] [e]
  | escape {c : Char} {digits : List Char} (hc : c ≠ '.') (hdots : '.' ∉ digits)
      (hslash : '\\' ∉ digits) (es : List Expr) : GlobPart ('\\' :: c :: digits) es

/-- `GlobParts glob es` says that a glob may be read, part by part, as the given items. -/
inductive GlobParts : (glob : List Char) → (es : List Expr) → Prop where
  | nil : GlobParts [] []
  | cons {part glob : List Char} {es fs : List Expr} (hpart : GlobPart part es)
      (hglob : GlobParts glob fs) : GlobParts (part ++ glob) (es ++ fs)

/-- What the items of a part match has a dot for each dot of the part that is bare, and a backslash for
each that is escaped. -/
theorem GlobPart.count_le {part : List Char} {es : List Expr} {before w after : List Char}
    (hpart : GlobPart part es) (hmatch : Matches (.cats es) before w after) (glob : List Char) :
  (bareChars (part ++ glob)).count '.' ≤ w.count '.' + (bareChars glob).count '.' ∧
    (escapedChars (part ++ glob)).count '.' ≤ w.count '\\' + (escapedChars glob).count '.'
  := by
  cases hpart with
  | dot =>
      obtain rfl := matches_single_iff.1 hmatch
      rw [bareChars_append (by decide), escapedChars_append (by decide), List.count_append]
      exact ⟨Nat.le_refl _, Nat.le_add_left _ _⟩
  | escapedDot any =>
      obtain ⟨u, v, rfl, hu, -⟩ := matches_cats_cons_iff.1 hmatch
      obtain rfl := matches_single_iff.1 hu
      simp only [List.cons_append, List.nil_append, bareChars_escape, escapedChars_escape,
        List.count_cons_self]
      omega
  | char hdot hslash e =>
      rw [bareChars_append (by simpa using hslash.symm),
        escapedChars_append (by simpa using hslash.symm), List.singleton_append,
        List.count_cons_of_ne hdot]
      exact ⟨Nat.le_add_left _ _, Nat.le_add_left _ _⟩
  | @escape c digits hc hdots hslash _ =>
      simp only [List.cons_append, bareChars_escape, escapedChars_escape]
      rw [bareChars_append hslash, escapedChars_append hslash, List.count_append,
        List.count_eq_zero_of_not_mem hdots, List.count_cons_of_ne hc, Nat.zero_add]
      exact ⟨Nat.le_add_left _ _, Nat.le_add_left _ _⟩

theorem GlobParts.count_le {glob : List Char} {es : List Expr} {before w after : List Char}
    (hglob : GlobParts glob es) (hmatch : Matches (.cats es) before w after) :
  (bareChars glob).count '.' ≤ w.count '.' ∧ (escapedChars glob).count '.' ≤ w.count '\\'
  := by
  induction hglob generalizing before w with
  | nil => simp [bareChars, escapedChars]
  | @cons part glob es fs hpart hglob ih =>
      obtain ⟨u, v, rfl, hu, hv⟩ := matches_cats_append_iff.1 hmatch
      obtain ⟨hbare, hescaped⟩ := hpart.count_le hu glob
      obtain ⟨hbares, hescapeds⟩ := ih hv
      rw [List.count_append, List.count_append]
      omega

/-! ### Reading escapes -/

/-- The text of a glob's group, after its opening bracket, with what follows the group. -/
def globText (glob : List Char) : List Char :=
  glob.flatMap globChar ++ [')', ')', '$']

/-- The text that stands for an asterisk, after its first character. -/
def runTail : List Char :=
  ['^', '"', '\'', '#', ']', '*']

/-- `EscapeLeaves glob left` says what an escape may leave of the text of a glob's group, the backslash
and the character after it being read: it leaves off between two characters of the glob, within the
text of an asterisk, or after the bracket that closes the group. -/
inductive EscapeLeaves : (glob left : List Char) → Prop where
  | between {digits : List Char} (glob : List Char) (hdots : '.' ∉ digits) (hslash : '\\' ∉ digits) :
      EscapeLeaves (digits ++ glob) (globText glob)
  | inRun (glob : List Char) : EscapeLeaves ('*' :: glob) (runTail ++ globText glob)
  | outside : EscapeLeaves [] [')', '$']

theorem EscapeLeaves.all (glob : List Char) :
  EscapeLeaves glob (globText glob)
  := .between glob List.not_mem_nil List.not_mem_nil

theorem EscapeLeaves.of_cons {c : Char} {glob r : List Char} (hslash : c ≠ '\\')
    (h : globText glob = c :: r) :
  EscapeLeaves glob r
  := by
  cases glob with
  | nil =>
      obtain ⟨-, rfl⟩ := List.cons.inj h
      apply EscapeLeaves.outside
  | cons d glob =>
      rw [globText, List.flatMap_cons, List.append_assoc] at h
      by_cases hdot : d = '.'
      · subst hdot
        exact absurd (List.head_eq_of_cons_eq h).symm hslash
      by_cases hrun : d = '*'
      · subst hrun
        obtain ⟨-, rfl⟩ := List.cons.inj h
        apply EscapeLeaves.inRun
      · rw [globChar_of_ne hdot hrun] at h
        obtain ⟨rfl, rfl⟩ := List.cons.inj h
        have hdots : '.' ∉ [d] := by simpa using Ne.symm hdot
        have hslashes : '\\' ∉ [d] := by simpa using hslash.symm
        apply EscapeLeaves.between glob hdots hslashes

/-- After characters of a kind the reader stands between two characters of the glob, if it is not the
kind of backslashes, classes and ends of groups. -/
theorem exists_digits {p : Char → Bool} (hp : ∀ c ∈ ['\\', '[', ')'], p c = false)
    {glob : List Char} {width : Nat} (h : ((globText glob).take width).all p = true) :
  ∃ digits rest, glob = digits ++ rest ∧ '.' ∉ digits ∧ '\\' ∉ digits ∧
    (globText glob).drop width = globText rest
  := by
  generalize htext : globText glob = text at h ⊢
  induction width generalizing glob text with
  | zero => exact ⟨[], glob, rfl, List.not_mem_nil, List.not_mem_nil, htext.symm⟩
  | succ width ih =>
      cases text with
      | nil => exact absurd htext (by simp [globText])
      | cons c text =>
          rw [List.take_succ_cons, List.all_cons, Bool.and_eq_true] at h
          obtain ⟨hc, hall⟩ := h
          have hkind : c ∉ ['\\', '[', ')'] := by
            intro hmem
            rw [hp c hmem] at hc
            cases hc
          obtain ⟨glob, rfl, hdot, rfl⟩ := globs_eq_cons htext hkind
          obtain ⟨digits, rest, rfl, hdots, hslashes, hdrop⟩ := ih _ rfl hall
          have hslash : c ≠ '\\' := List.ne_of_not_mem_cons hkind
          refine ⟨c :: digits, rest, rfl, ?_, ?_, hdrop⟩
          · apply List.not_mem_cons_of_ne_of_not_mem hdot.symm hdots
          · apply List.not_mem_cons_of_ne_of_not_mem hslash.symm hslashes

section

variable {glob left : List Char}

/-- Where no brace follows, the digits of a character by number are as many as it takes. -/
theorem escapeLeaves_of_readHex {c : Char} {width : Nat} (hglob : '\x7b' ∉ glob)
    (h : readHex .default width (globText glob) = some (c, left)) :
  EscapeLeaves glob left
  := by
  have hhead : (globText glob).head? ≠ some '\x7b' := head?_globs hglob (by decide)
  rw [readHex, Flags.skip_eq_self rfl] at h
  split at h
  · next hbrace => exact absurd (by rw [hbrace]; rfl) hhead
  split at h
  · next hdigits =>
    split at h
    · cases h
    obtain ⟨_, -, heq⟩ := Option.map_eq_some_iff.1 h
    cases heq
    obtain ⟨hall, rfl⟩ := of_readExactly_eq_some rfl hdigits
    have hkinds : ∀ c ∈ ['\\', '[', ')'], isHexDigit c = false := by
      simp [isHexDigit, Unicode.hexDigit?]
    obtain ⟨digits, rest, rfl, hdots, hslash, hdrop⟩ := exists_digits hkinds hall
    rw [hdrop]
    apply EscapeLeaves.between rest hdots hslash
  · cases h

/-- The letter of a property may be one that the glob does not have. -/
theorem escapeLeaves_of_readProperty {negated : Bool} {s : CharSet} (hglob : '\x7b' ∉ glob)
    (h : readProperty .default negated (globText glob) = some (s, left)) :
  EscapeLeaves glob left
  := by
  have hhead : (globText glob).head? ≠ some '\x7b' := head?_globs hglob (by decide)
  rw [readProperty, Flags.skip_eq_self rfl] at h
  simp only at h
  split at h
  · cases h
  · next htext => exact absurd (by rw [htext]; rfl) hhead
  · next c r _ htext =>
    split at h
    · cases h
    next hslash =>
    obtain ⟨_, -, heq⟩ := Option.map_eq_some_iff.1 h
    cases heq
    rw [Flags.skip_eq_self rfl]
    apply EscapeLeaves.of_cons hslash htext

theorem escapeLeaves_of_readWordBoundary {stands : Primitive} (hglob : '\x7b' ∉ glob)
    (h : readWordBoundary .default (globText glob) = some (stands, left)) :
  EscapeLeaves glob left
  := by
  have hhead : (globText glob).head? ≠ some '\x7b' := head?_globs hglob (by decide)
  unfold readWordBoundary at h
  split at h
  · next htext => exact absurd (by rw [htext]; rfl) hhead
  · cases h
    apply EscapeLeaves.all

theorem escapeLeaves_of_readEscape {c : Char} {stands : Primitive} (hglob : '\x7b' ∉ glob)
    (h : readEscape .default (c :: globText glob) = some (stands, left)) :
  EscapeLeaves glob left
  := by
  simp only [readEscape] at h
  split at h
  · cases h
  split at h
  · cases h
    apply EscapeLeaves.all
  split at h
  · apply escapeLeaves_of_readWordBoundary hglob h
  split at h
  · obtain ⟨⟨s, after⟩, hread, heq⟩ := Option.map_eq_some_iff.1 h
    cases heq
    apply escapeLeaves_of_readProperty hglob hread
  split at h
  · obtain ⟨⟨d, after⟩, hread, heq⟩ := Option.map_eq_some_iff.1 h
    cases heq
    apply escapeLeaves_of_readHex hglob hread
  · cases h
    apply EscapeLeaves.all
  · cases h
    apply EscapeLeaves.all
  · cases h
    apply EscapeLeaves.all
  · cases h

end

/-! ### Reading the parts -/

/-- `Advances st items glob found` says that what is read of a glob's group, after the given items, is
read after the items of the glob's first part as well. -/
def Advances (st : ReadState) (items : List (Option Expr)) (glob : List Char)
    (found : Expr × ReadState × List Char) : Prop :=
  ∃ part rest es fuel, glob = part ++ rest ∧ GlobPart part es ∧
    (rest.flatMap globChar).length < fuel ∧
    readItems fuel st [] ((es.map some).reverse ++ items) (globText rest) = some found

section

variable {n fuel : Nat} {names : List (List Char)} {items : List (Option Expr)} {glob : List Char}
  {found : Expr × ReadState × List Char}

theorem advances_dot (hfuel : (('.' :: glob).flatMap globChar).length < fuel)
    (h : readItems fuel ⟨.default, n, names⟩ [] items (globText ('.' :: glob)) = some found) :
  Advances ⟨.default, n, names⟩ items ('.' :: glob) found
  := by
  have hlength : (('.' :: glob).flatMap globChar).length = (glob.flatMap globChar).length + 2 := rfl
  obtain ⟨fuel, rfl⟩ : ∃ m, fuel = m + 1 := ⟨fuel - 1, by omega⟩
  rw [globText, List.flatMap_cons, List.append_assoc, readItems_dot] at h
  use ['.'], glob, [globItem '.'], fuel, rfl, .dot, by omega, h

theorem advances_run (hmark : '?' ∉ glob)
    (hfuel : (('*' :: glob).flatMap globChar).length < fuel)
    (h : readItems fuel ⟨.default, n, names⟩ [] items (globText ('*' :: glob)) = some found) :
  Advances ⟨.default, n, names⟩ items ('*' :: glob) found
  := by
  have hlength : (('*' :: glob).flatMap globChar).length = (glob.flatMap globChar).length + 7 := rfl
  obtain ⟨fuel, rfl⟩ : ∃ m, fuel = m + 2 := ⟨fuel - 2, by omega⟩
  rw [globText, List.flatMap_cons, List.append_assoc,
    readItems_run fuel (head?_globs hmark (by decide))] at h
  use ['*'], glob, [globItem '*'], fuel, rfl, .char (by decide) (by decide) _, by omega, h

theorem advances_escapedDot (hfuel : (('\\' :: '.' :: glob).flatMap globChar).length < fuel)
    (h : readItems fuel ⟨.default, n, names⟩ [] items (globText ('\\' :: '.' :: glob)) =
      some found) :
  Advances ⟨.default, n, names⟩ items ('\\' :: '.' :: glob) found
  := by
  have hlength : (('\\' :: '.' :: glob).flatMap globChar).length =
      (glob.flatMap globChar).length + 3 := rfl
  obtain ⟨fuel, rfl⟩ : ∃ m, fuel = m + 2 := ⟨fuel - 2, by omega⟩
  change readItems (fuel + 2) _ _ _ ('\\' :: '\\' :: '.' :: globText glob) = _ at h
  rw [readItems_atom rfl (fuel + 1) (by decide) rfl rfl,
    readItems_atom rfl fuel (by decide) rfl rfl] at h
  let any : Expr := .set (.compl (.single '\n'))
  use ['\\', '.'], glob, [.set (.single '\\'), any], fuel, rfl, .escapedDot any, by omega, h

/-- The text of an asterisk without its first character is no class. It is read character by
character. -/
theorem readItems_runTail (fuel : Nat) (hmark : '?' ∉ glob) :
  ∃ es : List Expr, readItems (fuel + 6) ⟨.default, n, names⟩ [] items (runTail ++ globText glob) =
    readItems fuel ⟨.default, n, names⟩ [] ((es.map some).reverse ++ items) (globText glob)
  := by
  have hhead : (globText glob).head? ≠ some '?' := head?_globs hmark (by decide)
  let literals : List Expr := ['"', '\'', '#'].map fun c => .set (.single c)
  let repeated : Expr := .repeated 0 none true (.set (.single ']'))
  use .anchor .start :: literals ++ [repeated]
  change readItems (fuel + 6) _ _ _ ('^' :: '"' :: '\'' :: '#' :: ']' :: '*' :: globText glob) = _
  rw [readItems_atom rfl _ (by decide) rfl rfl, readItems_atom rfl _ (by decide) rfl rfl,
    readItems_atom rfl _ (by decide) rfl rfl, readItems_atom rfl _ (by decide) rfl rfl,
    readItems_atom rfl _ (by decide) rfl rfl,
    readItems_repetition rfl fuel rfl (readRepetition_run hhead)]
  rfl

/-- An escaped asterisk is still turned into the text of a class, of which the backslash takes the first
character. -/
theorem advances_escapedRun (hmark : '?' ∉ glob)
    (hfuel : (('\\' :: '*' :: glob).flatMap globChar).length < fuel)
    (h : readItems fuel ⟨.default, n, names⟩ [] items (globText ('\\' :: '*' :: glob)) =
      some found) :
  Advances ⟨.default, n, names⟩ items ('\\' :: '*' :: glob) found
  := by
  have hlength : (('\\' :: '*' :: glob).flatMap globChar).length =
      (glob.flatMap globChar).length + 8 := rfl
  obtain ⟨fuel, rfl⟩ : ∃ m, fuel = m + 7 := ⟨fuel - 7, by omega⟩
  change readItems (fuel + 7) _ _ _ ('\\' :: '[' :: (runTail ++ globText glob)) = _ at h
  rw [readItems_atom rfl (fuel + 6) (by decide) rfl rfl] at h
  obtain ⟨es, htail⟩ := readItems_runTail fuel hmark
  rw [htail] at h
  refine ⟨['\\', '*'], glob, .set (.single '[') :: es, fuel, rfl,
    .escape (by decide) List.not_mem_nil List.not_mem_nil _, by omega, ?_⟩
  rw [List.map_cons, List.reverse_cons, List.append_assoc]
  exact h

/-- An escape of another character is one item, with what it takes in after that character. One that
takes in the closing bracket of the group leaves the reader at the bracket after it. -/
theorem advances_escape {c : Char} (hdot : c ≠ '.') (hrun : c ≠ '*') (hmark : '?' ∉ glob)
    (hbrace : '\x7b' ∉ glob) (hfuel : (('\\' :: c :: glob).flatMap globChar).length < fuel)
    (h : readItems fuel ⟨.default, n, names⟩ [] items (globText ('\\' :: c :: glob)) =
      some found) :
  found.2.2 = [')', '$'] ∨ Advances ⟨.default, n, names⟩ items ('\\' :: c :: glob) found
  := by
  obtain ⟨fuel, rfl⟩ := Nat.exists_eq_succ_of_ne_zero (Nat.ne_zero_of_lt hfuel)
  have hchars : ('\\' :: c :: glob).flatMap globChar = '\\' :: c :: glob.flatMap globChar := by
    rw [List.flatMap_cons, List.flatMap_cons, globChar_of_ne hdot hrun]
    rfl
  rw [globText, hchars] at h
  rw [hchars] at hfuel
  simp only [List.length_cons] at hfuel
  obtain ⟨e, left, hatom, hleft⟩ := exists_readAtom_of_readItems rfl (by decide) rfl h
  obtain ⟨stands, hescape⟩ := exists_readEscape_of_readAtom hatom
  cases escapeLeaves_of_readEscape hbrace hescape with
  | @between digits glob hdots hslash =>
      refine .inr ⟨'\\' :: c :: digits, glob, [e], fuel, rfl, .escape hdot hdots hslash [e], ?_, hleft⟩
      rw [List.flatMap_append, List.length_append] at hfuel
      omega
  | inRun glob =>
      have hlength : (('*' :: glob).flatMap globChar).length = (glob.flatMap globChar).length + 7 :=
        rfl
      obtain ⟨fuel, rfl⟩ : ∃ m, fuel = m + 6 := ⟨fuel - 6, by omega⟩
      obtain ⟨es, htail⟩ := readItems_runTail fuel (List.not_mem_of_not_mem_cons hmark)
      rw [htail] at hleft
      refine .inr ⟨['\\', c, '*'], glob, e :: es, fuel, rfl,
        .escape hdot (by decide) (by decide) _, by omega, ?_⟩
      rw [List.map_cons, List.reverse_cons, List.append_assoc]
      exact hleft
  | outside =>
      obtain ⟨fuel, rfl⟩ : ∃ m, fuel = m + 1 := ⟨fuel - 1, by omega⟩
      rw [readItems_close rfl fuel] at hleft
      obtain rfl := Option.some.inj hleft
      left
      rfl

theorem advances_char {c : Char} (hc : c ∉ structuralChars) (hslash : c ≠ '\\') (hdot : c ≠ '.')
    (hrun : c ≠ '*') (hfuel : ((c :: glob).flatMap globChar).length < fuel)
    (h : readItems fuel ⟨.default, n, names⟩ [] items (globText (c :: glob)) = some found) :
  Advances ⟨.default, n, names⟩ items (c :: glob) found
  := by
  simp only [structuralChars, List.mem_cons, not_or] at hc
  obtain ⟨hbar, hopen, hclose, hclass, -, hbrace, -, hmark, hplus, -⟩ := hc
  obtain ⟨fuel, rfl⟩ := Nat.exists_eq_succ_of_ne_zero (Nat.ne_zero_of_lt hfuel)
  have hchars : (c :: glob).flatMap globChar = c :: glob.flatMap globChar := by
    rw [List.flatMap_cons, globChar_of_ne hdot hrun]
    rfl
  have hends : c ∉ [')', '|', '('] := by simp [hclose, hbar, hopen]
  have hsign : startsRepetition c = false := by
    simp [startsRepetition, hmark, hrun, hplus, hbrace]
  rw [globText, hchars] at h
  rw [hchars] at hfuel
  obtain ⟨e, left, hatom, hleft⟩ := exists_readAtom_of_readItems rfl hends hsign h
  obtain ⟨e', hatom'⟩ := exists_readAtom hslash hclass
  cases hatom.symm.trans hatom'
  use [c], glob, [e], fuel, rfl, .char hdot hslash e, Nat.lt_of_succ_lt_succ hfuel, hleft

/-- What is read of the group of a glob is read after its first part as well, unless the glob is a
backslash: that escapes the closing bracket of the group. -/
theorem advances_of_readItems {c : Char} (hglob : ∀ d ∈ c :: glob, d ∉ structuralChars)
    (hfuel : ((c :: glob).flatMap globChar).length < fuel)
    (h : readItems fuel ⟨.default, n, names⟩ [] items (globText (c :: glob)) = some found) :
  found.2.2 = [')', '$'] ∨ Advances ⟨.default, n, names⟩ items (c :: glob) found
  := by
  have hmark : '?' ∉ glob := fun h => hglob '?' (List.mem_cons_of_mem c h) (by decide)
  have hbrace : '\x7b' ∉ glob := fun h => hglob '\x7b' (List.mem_cons_of_mem c h) (by decide)
  by_cases hslash : c = '\\'
  · subst hslash
    cases glob with
    | nil =>
        obtain ⟨fuel, rfl⟩ : ∃ m, fuel = m + 2 := ⟨fuel - 2, Nat.eq_add_of_sub_eq hfuel rfl⟩
        change readItems (fuel + 2) _ _ _ ['\\', ')', ')', '$'] = _ at h
        rw [readItems_atom rfl (fuel + 1) (by decide) rfl rfl, readItems_close rfl fuel] at h
        obtain rfl := Option.some.inj h
        left
        rfl
    | cons d glob =>
        replace hmark := List.not_mem_of_not_mem_cons hmark
        replace hbrace := List.not_mem_of_not_mem_cons hbrace
        by_cases hdot : d = '.'
        · subst hdot
          right
          apply advances_escapedDot hfuel h
        by_cases hrun : d = '*'
        · subst hrun
          right
          apply advances_escapedRun hmark hfuel h
        · apply advances_escape hdot hrun hmark hbrace hfuel h
  right
  by_cases hrun : c = '*'
  · subst hrun
    apply advances_run hmark hfuel h
  by_cases hdot : c = '.'
  · subst hdot
    apply advances_dot hfuel h
  · apply advances_char (hglob c List.mem_cons_self) hslash hdot hrun hfuel h

theorem GlobPart.ne_nil {part : List Char} {es : List Expr} (h : GlobPart part es) :
  part ≠ []
  := by
  cases h <;> apply List.cons_ne_nil

/-- The group of a glob is read part by part up to the end of the group, unless a backslash at its end
escapes the closing bracket. -/
theorem exists_globParts {e : Expr} {after : ReadState} {left : List Char}
    (hglob : ∀ c ∈ glob, c ∉ structuralChars) (hfuel : (glob.flatMap globChar).length < fuel)
    (h : readItems fuel ⟨.default, n, names⟩ [] items (globText glob) = some (e, after, left)) :
  left = [')', '$'] ∨ left = [')', ')', '$'] ∧
    ∃ es, GlobParts glob es ∧ e = itemsExpr ((es.map some).reverse ++ items)
  := by
  induction hlength : glob.length using Nat.strongRecOn generalizing glob items fuel with
  | ind length ih =>
    cases glob with
    | nil =>
        obtain ⟨fuel, rfl⟩ := Nat.exists_eq_succ_of_ne_zero (Nat.ne_zero_of_lt hfuel)
        change readItems (fuel + 1) _ _ _ [')', ')', '$'] = _ at h
        rw [readItems_close rfl fuel] at h
        cases h
        right
        use rfl, [], .nil
        rfl
    | cons c glob =>
        rcases advances_of_readItems hglob hfuel h with hopen | hadvances
        · left
          exact hopen
        obtain ⟨part, rest, es, fuel', hparts, hpart, hfuel', hrest⟩ := hadvances
        rw [hparts] at hglob hlength ⊢
        have hpos : 0 < part.length := List.length_pos_iff.2 hpart.ne_nil
        rw [List.length_append] at hlength
        have hchars : ∀ d ∈ rest, d ∉ structuralChars := fun d hd =>
          hglob d (List.mem_append_right part hd)
        rcases ih rest.length (by omega) hchars hfuel' hrest rfl with hopen | ⟨hleft, fs, hfs, he⟩
        · left
          exact hopen
        · right
          use hleft, es ++ fs, .cons hpart hfs
          rw [he, List.map_append, List.reverse_append, List.append_assoc]

end

/-! ### Matching -/

/-- A glob that has a pattern is read part by part. Its items stand in a group between the anchors. -/
theorem exists_globParts_of_compileGlob {glob : String} {p : Pattern} (hp : compileGlob glob = .ok p)
    (hglob : ∀ c ∈ glob.toList, c ∉ structuralChars) :
  ∃ es, GlobParts glob.toList es ∧
    p.expr = .cats [.anchor .start, .group 1 (.cats es), .anchor .ending]
  := by
  obtain ⟨after, h⟩ := Expr.parse_eq_some_iff.1 (parse_of_compileGlob hp)
  have hmark : '?' ∉ glob.toList := fun h => hglob '?' h (by decide)
  have hlength : (anchoredSource (globSource glob)).toList.length + 1 =
      (glob.toList.flatMap globChar).length + 9 := by
    rw [toList_anchoredSource]
    simp
  have houter : startGroup (.initial .default) ('?' :: ':' :: '(' :: globText glob.toList) =
      some (.group none (.initial .default) ('(' :: globText glob.toList)) := rfl
  have hinner : startGroup (.initial .default) (globText glob.toList) =
      some (.group (some 1) ⟨.default, 2, []⟩ (globText glob.toList)) := startGroup_globs rfl hmark
  rw [hlength, toList_anchoredSource, readItems_atom rfl _ (by decide) rfl rfl] at h
  -- the group without a number, and the group with one inside it
  obtain ⟨whole, after, rest, hwhole, hend⟩ := exists_group_of_readItems rfl houter h
  obtain ⟨e, after', rest', hitems, hclose⟩ := exists_group_of_readItems rfl hinner hwhole
  rcases exists_globParts hglob (by omega) hitems with hleft | ⟨hleft, es, hes, rfl⟩
  · -- the bracket that is left closes the inner group, and none closes the outer one
    obtain rfl : rest' = ['$'] := List.tail_eq_of_cons_eq hleft
    rw [readItems_atom rfl _ (by decide) rfl rfl, readItems_nil rfl] at hclose
    cases hclose
  · obtain rfl : rest' = [')', '$'] := List.tail_eq_of_cons_eq hleft
    rw [readItems_close rfl] at hclose
    cases hclose
    rw [readItems_atom rfl _ (by decide) rfl rfl, readItems_nil rfl] at hend
    obtain ⟨hexpr, -⟩ := Prod.mk.inj (Option.some.inj hend)
    use es, hes
    rw [← hexpr, List.append_nil, itemsExpr_reverse_map, List.map_id']
    rfl

/-- A URL that matches a glob has a dot for each bare dot of the glob, and a backslash for each dot that
a backslash escapes: as many dots as the glob, if the glob escapes none. -/
theorem compileGlob_count_dot_le {glob : String} {p : Pattern} (hp : compileGlob glob = .ok p)
    (hglob : ∀ c ∈ glob.toList, c ∉ structuralChars) {url : String} (h : p.isMatch url = true) :
  (bareChars glob.toList).count '.' ≤ url.toList.count '.' ∧
    (escapedChars glob.toList).count '.' ≤ url.toList.count '\\' ∧
    ('.' ∉ escapedChars glob.toList → glob.toList.count '.' ≤ url.toList.count '.')
  := by
  obtain ⟨es, hes, hexpr⟩ := exists_globParts_of_compileGlob hp hglob
  rw [Pattern.isMatch, hexpr, isMatch_anchored_iff, matches_group_iff] at h
  obtain ⟨hbare, hescaped⟩ := hes.count_le h
  use hbare, hescaped
  intro hnone
  calc glob.toList.count '.'
      = (bareChars glob.toList).count '.' + (escapedChars glob.toList).count '.' :=
        (count_bareChars_add_count_escapedChars (by decide) _).symm
    _ = (bareChars glob.toList).count '.' := by rw [List.count_eq_zero_of_not_mem hnone, Nat.add_zero]
    _ ≤ url.toList.count '.' := hbare

/-- What is found out about the pattern of a glob says that the glob has one. -/
theorem exists_compileGlob_of_map {glob : String} {α : Type} {f : Pattern → α} {a : α}
    (h : (compileGlob glob).toOption.map f = some a) :
  ∃ p, compileGlob glob = .ok p ∧ f p = a
  := by
  cases hp : compileGlob glob with
  | error e =>
      rw [hp] at h
      cases h
  | ok p =>
      rw [hp] at h
      use p, rfl
      apply Option.some.inj h

/-- A glob with a dot of each kind. -/
theorem compileGlob_count_dot_le_twoDots :
  ∃ p, compileGlob "a\\.b.c" = .ok p ∧ p.isMatch "a\\xb.c" = true ∧
    1 ≤ "a\\xb.c".toList.count '.' ∧ 1 ≤ "a\\xb.c".toList.count '\\'
  := by
  have hmatch : (compileGlob "a\\.b.c").toOption.map (·.isMatch "a\\xb.c") = some true := by
    decide +kernel
  have hglob : ∀ c ∈ "a\\.b.c".toList, c ∉ structuralChars := by simp [structuralChars]
  obtain ⟨p, hp, hurl⟩ := exists_compileGlob_of_map hmatch
  obtain ⟨hbare, hescaped, -⟩ := compileGlob_count_dot_le hp hglob hurl
  use p, hp, hurl, hbare, hescaped

/-- The dot of a glob is read as any character where it has a backslash of its own before it. -/
theorem compileGlob_escapedDot_isMatch :
  ∃ p, compileGlob "a\\.b" = .ok p ∧ (∀ c ∈ "a\\.b".toList, c ∉ structuralChars) ∧
    p.isMatch "a\\xb" = true ∧ ¬ "a\\.b".toList.count '.' ≤ "a\\xb".toList.count '.'
  := by
  have hmatch : (compileGlob "a\\.b").toOption.map (·.isMatch "a\\xb") = some true := by
    decide +kernel
  have hglob : ∀ c ∈ "a\\.b".toList, c ∉ structuralChars := by simp [structuralChars]
  obtain ⟨p, hp, hurl⟩ := exists_compileGlob_of_map hmatch
  use p, hp, hglob, hurl
  decide

end PageModel
