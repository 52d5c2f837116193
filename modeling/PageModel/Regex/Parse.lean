import PageModel.Number.Digits
import PageModel.Regex.Expr
import PageModel.Regex.Property

/-!
# Reading patterns

The text of a pattern: literals, classes in brackets, escapes, groups, alternatives and
repetitions. Flags that a group sets hold to its end; they decide what the text after them means,
so the expression is built with them as it is read. A text that is no pattern gives nothing.
-/

namespace PageModel.Regex

/-- The flags: letters of either case match, anchors of lines, the dot matches line ends,
repetitions are lazy by default, classes are of all scripts, line ends of two characters, and
blanks and comments are passed over. -/
structure Flags where
  caseless : Bool
  multiLine : Bool
  dotAll : Bool
  swapGreed : Bool
  unicode : Bool
  crlf : Bool
  verbose : Bool
deriving Repr, DecidableEq

/-- The flags of a pattern that sets none. -/
def Flags.default : Flags :=
  ⟨false, false, false, false, true, false, false⟩

/-- What is known while a pattern is read: the flags, the number of the next group, and the
names of groups. -/
structure ReadState where
  flags : Flags
  nextGroup : Nat
  names : List (List Char)

/-- The state at the start of a pattern. -/
def ReadState.initial (flags : Flags) : ReadState :=
  ⟨flags, 1, []⟩

/-- Text after blanks and comments; a comment goes to the end of its line. -/
def skipLoose (inComment : Bool) : List Char → List Char
  | [] => []
  | c :: cs =>
      if inComment then skipLoose (c != '\n') cs
      else if Unicode.isBlank c then skipLoose false cs
      else if c = '#' then skipLoose true cs
      else c :: cs

/-- Text after what the flags pass over. -/
def Flags.skip (f : Flags) (cs : List Char) : List Char :=
  if f.verbose then skipLoose false cs else cs

theorem length_skipLoose_le (inComment : Bool) (cs : List Char) :
  (skipLoose inComment cs).length ≤ cs.length
  := by
  induction cs generalizing inComment with
  | nil => exact Nat.le_refl 0
  | cons c cs ih =>
      unfold skipLoose
      split
      · exact Nat.le_succ_of_le (ih _)
      split
      · exact Nat.le_succ_of_le (ih _)
      split
      · exact Nat.le_succ_of_le (ih _)
      · exact Nat.le_refl _

theorem Flags.length_skip_le (f : Flags) (cs : List Char) :
  (f.skip cs).length ≤ cs.length
  := by
  unfold Flags.skip
  split
  · exact length_skipLoose_le false cs
  · exact Nat.le_refl _

/-! ### Characters of a kind -/

/-- The characters of a kind that a text starts with, and the text after them. What the flags pass over
may stand after each. -/
def readRun (f : Flags) (p : Char → Bool) : List Char → List Char × List Char
  | [] => ([], [])
  | c :: cs =>
      if p c then
        have := Nat.lt_succ_of_le (f.length_skip_le cs)
        let (run, rest) := readRun f p (f.skip cs)
        (c :: run, rest)
      else ([], c :: cs)
termination_by cs => cs.length

/-- As many characters of a kind as asked for, and the text after them. What the flags pass over may stand
after each. -/
def readExactly (f : Flags) (p : Char → Bool) : Nat → List Char →
    Option (List Char × List Char)
  | 0, cs => some ([], cs)
  | _ + 1, [] => none
  | n + 1, c :: cs =>
      if p c then (readExactly f p n (f.skip cs)).map fun (run, rest) => (c :: run, rest)
      else none

/-! ### Literals and escapes -/

/-- What an escape stands for. -/
inductive Primitive where
  | literal (c : Char)
  | chars (s : CharSet)
  | anchor (a : Anchor)

/-- The characters that a literal matches. -/
def literalSet (f : Flags) (c : Char) : CharSet :=
  if !f.caseless then .single c
  else if f.unicode then .folded (.single c)
  else .union (.single c.toLower) (.single c.toUpper)

/-- The characters that the dot matches. Without classes of all scripts it would match parts of
characters, and is refused. -/
def dotSet? (f : Flags) : Option CharSet :=
  if !f.unicode then none
  else if f.dotAll then some .all
  else if f.crlf then some (.compl (.union (.single '\n') (.single '\r')))
  else some (.compl (.single '\n'))

/-- The anchor that a caret stands for. -/
def caretAnchor (f : Flags) : Anchor :=
  if !f.multiLine then .start else if f.crlf then .crlfLineStart else .lineStart

/-- The anchor that a dollar sign stands for. -/
def dollarAnchor (f : Flags) : Anchor :=
  if !f.multiLine then .ending else if f.crlf then .crlfLineEnd else .lineEnd

/-- The characters that have a meaning of their own, and mean themselves after a backslash. -/
def isMeta (c : Char) : Bool :=
  c = '\\' || c = '.' || c = '+' || c = '*' || c = '?' || c = '(' || c = ')' || c = '|' || c = '['
    || c = ']' || c = '\x7b' || c = '\x7d' || c = '^' || c = '$' || c = '#' || c = '&' || c = '-'
    || c = '~'

/-- The characters that mean themselves after a backslash. -/
def isEscapable (c : Char) : Bool :=
  isMeta c || (c.toNat < 0x80 && !c.isAlphanum && c != '<' && c != '>')

/-- The character with a number. -/
def charOf? (n : Nat) : Option Char :=
  if n < 0xD800 ∨ (0xDFFF < n ∧ n < 0x110000) then some (Char.ofNat n) else none

/-- A character by number: `width` digits, or any number of them in braces. Without classes of all
scripts two digits name a byte, and one outside of ASCII is no character. -/
def readHex (f : Flags) (width : Nat) (cs : List Char) : Option (Char × List Char) :=
  match f.skip cs with
  | '\x7b' :: r =>
      match readRun f isHexDigit (f.skip r) with
      | (digits, '\x7d' :: rest) =>
          if digits.isEmpty then none
          else (charOf? (valueIn 16 digits)).map fun c => (c, f.skip rest)
      | _ => none
  | cs =>
      match readExactly f isHexDigit width cs with
      | some (digits, rest) =>
          if width = 2 ∧ !f.unicode ∧ 0x80 ≤ valueIn 16 digits then none
          else (charOf? (valueIn 16 digits)).map fun c => (c, rest)
      | none => none

/-- The position of a text in another. -/
def findText (part : List Char) : List Char → Option Nat
  | [] => if part.isEmpty then some 0 else none
  | c :: cs => if part.isPrefixOf (c :: cs) then some 0 else (findText part cs).map (· + 1)

/-- The set that the name in a property escape stands for. -/
def namedProperty? (name : List Char) : Option CharSet :=
  let split (i n : Nat) : Option CharSet :=
    propertyValue? (String.ofList (name.take i)) (String.ofList (name.drop (i + n)))
  match findText ['!', '='] name, findText [':'] name, findText ['='] name with
  | some i, _, _ => (split i 2).map .compl
  | none, some i, _ => split i 1
  | none, none, some i => split i 1
  | none, none, none => property? (String.ofList name)

/-- The set of a property escape, after its letter. -/
def readProperty (f : Flags) (negated : Bool) (cs : List Char) : Option (CharSet × List Char) :=
  let finish (s : Option CharSet) (rest : List Char) : Option (CharSet × List Char) :=
    if !f.unicode then none
    else s.map fun s => (.complIf negated (if f.caseless then .folded s else s), rest)
  match f.skip cs with
  | [] => none
  | '\x7b' :: r =>
      match readRun f (· != '\x7d') (f.skip r) with
      | (name, _ :: rest) => finish (namedProperty? name) rest
      | (_, []) => none
  | c :: r => if c = '\\' then none else finish (property? (String.ofList [c])) (f.skip r)

/-- The set of an escape such as `\d`. Outside of all scripts a complement would match parts of
characters, and is refused. -/
def shorthand? (f : Flags) (c : Char) : Option CharSet :=
  let positive : Option CharSet :=
    match c.toLower with
    | 'd' => some (if f.unicode then .digit else .range '0' '9')
    | 's' => some (if f.unicode then .blank else .unions [.range '\t' '\r', .single ' '])
    | 'w' =>
        some (if f.unicode then .word
          else .unions [.range '0' '9', .range 'A' 'Z', .single '_', .range 'a' 'z'])
    | _ => none
  if c.isUpper then (if f.unicode then positive.map .compl else none) else positive

/-- The anchor that a name in braces after `\b` stands for. -/
def wordAnchor? (ascii : Bool) : String → Option Anchor
  | "start" => some (.wordStart ascii)
  | "end" => some (.wordEnd ascii)
  | "start-half" => some (.wordStartHalf ascii)
  | "end-half" => some (.wordEndHalf ascii)
  | _ => none

/-- The anchor of a `\b`. Braces after it name a kind of boundary if they hold a name. -/
def readWordBoundary (f : Flags) (cs : List Char) : Option (Primitive × List Char) :=
  let isNameChar (c : Char) : Bool := c.isAlpha || c = '-'
  let plain : Option (Primitive × List Char) := some (.anchor (.wordBoundary (!f.unicode)), cs)
  match cs with
  | '\x7b' :: r =>
      match readRun f isNameChar (f.skip r) with
      | ([], rest) => if rest.isEmpty then none else plain
      | (name, '\x7d' :: rest) =>
          (wordAnchor? (!f.unicode) (String.ofList name)).map fun a => (.anchor a, rest)
      | _ => none
  | _ => plain

/-- The character that an escape of one letter stands for. -/
def controlChar? : Char → Option Char
  | 'a' => some '\x07'
  | 'f' => some '\x0C'
  | 't' => some '\t'
  | 'n' => some '\n'
  | 'r' => some '\r'
  | 'v' => some '\x0B'
  | _ => none

/-- The anchor that an escape of one letter stands for. -/
def letterAnchor? (ascii : Bool) : Char → Option Anchor
  | 'A' => some .start
  | 'z' => some .ending
  | 'B' => some (.noWordBoundary ascii)
  | '<' => some (.wordStart ascii)
  | '>' => some (.wordEnd ascii)
  | _ => none

/-- The number of digits of a character by number. -/
def hexWidth? : Char → Option Nat
  | 'x' => some 2
  | 'u' => some 4
  | 'U' => some 8
  | _ => none

/-- What an escape stands for, after its backslash. -/
def readEscape (f : Flags) : List Char → Option (Primitive × List Char)
  | [] => none
  | c :: r =>
      if c.isDigit then none
      else if isEscapable c then some (.literal c, r)
      else if c = 'b' then readWordBoundary f r
      else if c = 'p' ∨ c = 'P' then
        (readProperty f (c = 'P') r).map fun (s, rest) => (.chars s, rest)
      else
        match hexWidth? c, shorthand? f c, controlChar? c, letterAnchor? (!f.unicode) c with
        | some width, _, _, _ => (readHex f width r).map fun (c, rest) => (.literal c, rest)
        | none, some s, _, _ => some (.chars s, r)
        | none, none, some c, _ => some (.literal c, r)
        | none, none, none, some a => some (.anchor a, r)
        | none, none, none, none => none

/-! ### Classes in brackets -/

/-- The operations on sets in brackets. -/
inductive SetOp where
  | inter
  | difference
  | symmetricDifference

/-- The set that an operation gives. -/
def SetOp.apply : SetOp → CharSet → CharSet → CharSet
  | .inter => .inter
  | .difference => CharSet.difference
  | .symmetricDifference => CharSet.symmetricDifference

/-- The operation that a text in brackets goes on with. -/
def setOp? : List Char → Option (SetOp × List Char)
  | '&' :: '&' :: r => some (.inter, r)
  | '-' :: '-' :: r => some (.difference, r)
  | '~' :: '~' :: r => some (.symmetricDifference, r)
  | _ => none

/-- A set that takes case as the flags say. -/
def Flags.fold (f : Flags) (s : CharSet) : CharSet :=
  if !f.caseless then s
  else if f.unicode then .folded s
  else
    .unions [s, .inter (.range 'a' 'z') (.folded (.inter s (.range 'A' 'Z'))),
      .inter (.range 'A' 'Z') (.folded (.inter s (.range 'a' 'z')))]

/-- The set of what stands in brackets, the part before an operation being given. -/
def combine (f : Flags) (before : Option (SetOp × CharSet)) (items : List CharSet) : CharSet :=
  let s := CharSet.unions items.reverse
  match before with
  | none => s
  | some (op, left) => op.apply (f.fold left) (f.fold s)

/-- A named class in double brackets, after the inner opening bracket. -/
def readNamedClass : List Char → Option (CharSet × List Char)
  | ':' :: r =>
      let negated := r.head? = some '^'
      let r := if negated then r.drop 1 else r
      match r.dropWhile (· != ':') with
      | ':' :: ']' :: rest =>
          (asciiClass? (String.ofList (r.takeWhile (· != ':')))).map fun s =>
            (.complIf negated s, rest)
      | _ => none
  | _ => none

/-- One member of a class: a character or a set. -/
def readMember (f : Flags) : List Char → Option (Primitive × List Char)
  | [] => none
  | '\\' :: r => readEscape f r
  | c :: r => some (.literal c, r)

/-- Whether a dash between members is one itself, judged by what follows it. -/
def isLiteralDash (f : Flags) (afterDash : List Char) : Bool :=
  match f.skip afterDash with
  | ']' :: _ => true
  | '-' :: _ => true
  | _ => false

/-- A member of a class, or a range of members. -/
def readRange (f : Flags) (cs : List Char) : Option (CharSet × List Char) :=
  match readMember f cs with
  | none => none
  | some (first, rest) =>
      let alone : Option (CharSet × List Char) :=
        match first with
        | .literal c => some (.single c, rest)
        | .chars s => some (s, rest)
        | .anchor _ => none
      match f.skip rest with
      | [] => none
      | '-' :: r =>
          if isLiteralDash f r then alone
          else
            match first, readMember f (f.skip r) with
            | .literal a, some (.literal b, rest) =>
                if a ≤ b then some (.range a b, rest) else none
            | _, _ => none
      | _ => alone

/-- The dashes, or else the closing bracket, with which a class starts as its members. -/
def openingMembers (f : Flags) (cs : List Char) : List CharSet × List Char :=
  match readRun f (· = '-') cs with
  | ([], ']' :: r) => ([.single ']'], f.skip r)
  | (dashes, rest) => (dashes.map .single, rest)

/-- The start of a class, after its opening bracket: whether the class is negated, and its first
members. -/
def openClass (f : Flags) (cs : List Char) : Bool × List CharSet × List Char :=
  match f.skip cs with
  | '^' :: r => (true, openingMembers f (f.skip r))
  | r => (false, openingMembers f r)

/-- Whether a set holds ASCII characters alone, as far as it shows. -/
def CharSet.isAscii : CharSet → Bool
  | .none => true
  | .range _ last => last.toNat < 0x80
  | .table _ => false
  | .blank => false
  | .digit => false
  | .word => false
  | .union a b => a.isAscii && b.isAscii
  | .inter a b => a.isAscii || b.isAscii
  | .compl _ => false
  | .folded _ => false

/-- The set of a class from its opening bracket on, the bracket being read: `before` is the part
before an operation, `items` the members read, in reverse. -/
def readClassItems (f : Flags) : (fuel : Nat) → (before : Option (SetOp × CharSet)) →
    (items : List CharSet) → List Char → Option (CharSet × List Char)
  | 0, _, _, _ => none
  | fuel + 1, before, items, cs =>
      let cs := f.skip cs
      match cs with
      | [] => none
      | ']' :: r => some (combine f before items, r)
      | '[' :: r =>
          match readNamedClass r with
          | some (s, rest) => readClassItems f fuel before (s :: items) rest
          | none =>
              let (negated, first, r) := openClass f r
              match readClassItems f fuel none first r with
              | some (s, rest) =>
                  readClassItems f fuel before (.complIf negated (f.fold s) :: items) rest
              | none => none
      | c :: _ =>
          match setOp? cs with
          | some (op, r) => readClassItems f fuel (some (op, combine f before items)) [] r
          | none =>
              if c = ']' then none
              else
                match readRange f cs with
                | some (s, rest) => readClassItems f fuel before (s :: items) rest
                | none => none

/-- The set of a class, after its opening bracket. -/
def readClass (f : Flags) (cs : List Char) : Option (CharSet × List Char) :=
  let (negated, first, r) := openClass f cs
  match readClassItems f (r.length + 1) none first r with
  | some (s, rest) =>
      if !f.unicode && (negated || !s.isAscii) then none
      else some (.complIf negated (f.fold s), rest)
  | none => none

/-! ### Flags and groups -/

/-- The flags with one set or cleared. -/
def Flags.set? (f : Flags) (value : Bool) : Char → Option Flags
  | 'i' => some { f with caseless := value }
  | 'm' => some { f with multiLine := value }
  | 's' => some { f with dotAll := value }
  | 'U' => some { f with swapGreed := value }
  | 'u' => some { f with unicode := value }
  | 'R' => some { f with crlf := value }
  | 'x' => some { f with verbose := value }
  | _ => none

/-- The flags that a group states, up to the character that ends them; `seen` are the letters
read, and `value` what they are set to. -/
def readFlags (f : Flags) (seen : List Char) (value : Bool) : List Char →
    Option (Flags × List Char)
  | [] => none
  | c :: cs =>
      if c = ':' ∨ c = ')' then
        if seen.head? = some '-' then none else some (f, c :: cs)
      else if seen.contains c then none
      else if c = '-' then readFlags f ('-' :: seen) false cs
      else
        match f.set? value c with
        | some f => readFlags f (c :: seen) value cs
        | none => none

/-- Whether a character may stand in the name of a group. -/
def isGroupNameChar (isFirst : Bool) (c : Char) : Bool :=
  c = '_' || (if isFirst then Unicode.alphabeticTable.contains c
    else c = '.' || c = '[' || c = ']' || Unicode.isAlphanumeric c)

/-- The name of a group, up to its closing bracket. -/
def readGroupName (cs : List Char) : Option (List Char × List Char) :=
  match cs.takeWhile (· != '>'), cs.dropWhile (· != '>') with
  | c :: name, _ :: rest =>
      if isGroupNameChar true c && name.all (isGroupNameChar false) then some (c :: name, rest)
      else none
  | _, _ => none

/-- What an opening bracket starts: a change of the flags of the group that it stands in, or a
group, with its number if it has one. -/
inductive GroupStart where
  | flags (f : Flags) (rest : List Char)
  | group (index : Option Nat) (inner : ReadState) (rest : List Char)

/-- What a name that is given to a group starts, after its opening bracket. -/
def startNamedGroup (st : ReadState) (cs : List Char) : Option GroupStart :=
  match readGroupName cs with
  | some (name, rest) =>
      if st.names.contains name then none
      else
        some (.group (some st.nextGroup)
          { st with nextGroup := st.nextGroup + 1, names := name :: st.names } rest)
  | none => none

/-- What a round bracket starts, the bracket being read. -/
def startGroup (st : ReadState) (cs : List Char) : Option GroupStart :=
  match st.flags.skip cs with
  | '?' :: 'P' :: '<' :: r => startNamedGroup st r
  | '?' :: '<' :: r =>
      if r.head? = some '=' ∨ r.head? = some '!' then none else startNamedGroup st r
  | '?' :: r =>
      match readFlags st.flags [] true r with
      | some (f, ':' :: rest) => some (.group none { st with flags := f } rest)
      | some (f, ')' :: rest) => if r.head? = some ')' then none else some (.flags f rest)
      | _ => none
  | r => some (.group (some st.nextGroup) { st with nextGroup := st.nextGroup + 1 } r)

/-! ### Repetitions -/

/-- A number of rounds with blanks around it. -/
def readCount (f : Flags) (cs : List Char) : Option (Nat × List Char) :=
  let (digits, rest) := readRun f Char.isDigit (cs.dropWhile Unicode.isBlank)
  if digits.isEmpty ∨ UInt32.size ≤ decimalValue digits then none
  else some (decimalValue digits, (readRun f Unicode.isBlank rest).2)

/-- The numbers of rounds in braces, after the opening one. -/
def readBounds (f : Flags) (cs : List Char) : Option ((Nat × Option Nat) × List Char) :=
  match readCount f (f.skip cs) with
  | none => none
  | some (n, '\x7d' :: rest) => some ((n, some n), rest)
  | some (n, ',' :: r) =>
      match f.skip r with
      | '\x7d' :: rest => some ((n, none), rest)
      | r =>
          match readCount f r with
          | some (m, '\x7d' :: rest) => if n ≤ m then some ((n, some m), rest) else none
          | _ => none
  | _ => none

/-- The numbers of rounds that a sign stands for. -/
def signBounds? : Char → Option (Nat × Option Nat)
  | '?' => some (0, some 1)
  | '*' => some (0, none)
  | '+' => some (1, none)
  | _ => none

/-- The mark of a lazy repetition, if it follows. -/
def readLazy : List Char → Bool × List Char
  | '?' :: rest => (true, rest)
  | rest => (false, rest)

/-- A repetition at the start of a text: the numbers of rounds, and whether it is lazy. -/
def readRepetition (f : Flags) : List Char → Option ((Nat × Option Nat) × Bool × List Char)
  | [] => none
  | c :: r =>
      match signBounds? c with
      | some bounds => some (bounds, readLazy r)
      | none => (readBounds f r).map fun (bounds, rest) => (bounds, readLazy (f.skip rest))

/-- Whether a character starts a repetition. -/
def startsRepetition (c : Char) : Bool :=
  c = '?' || c = '*' || c = '+' || c = '\x7b'

/-! ### Expressions -/

/-- The expression of items read, in reverse; a change of flags is no item of its own. -/
def itemsExpr (items : List (Option Expr)) : Expr :=
  .cats (items.reverse.filterMap id)

/-- Alternatives, the ones before the last being given in reverse. -/
def altsExpr : (before : List Expr) → Expr → Expr
  | [], last => last
  | e :: before, last => altsExpr before (.alt e last)

/-- A literal, a class, an anchor or the dot, which may stand for itself. -/
def readAtom (f : Flags) : List Char → Option (Expr × List Char)
  | [] => none
  | '\\' :: r =>
      match readEscape f r with
      | some (.literal c, rest) => some (.set (literalSet f c), rest)
      | some (.chars s, rest) => some (.set s, rest)
      | some (.anchor a, rest) => some (.anchor a, rest)
      | none => none
  | c :: r =>
      if c = '[' then (readClass f r).map fun (s, rest) => (.set s, rest)
      else if c = '.' then (dotSet? f).map fun s => (.set s, r)
      else if c = '^' then some (.anchor (caretAnchor f), r)
      else if c = '$' then some (.anchor (dollarAnchor f), r)
      else some (.set (literalSet f c), r)

/-- The expression up to the end of a group or of the pattern: `alts` are the alternatives
before, `items` the items of the last one, both in reverse. -/
def readItems : (fuel : Nat) → ReadState → (alts : List Expr) → (items : List (Option Expr)) →
    List Char → Option (Expr × ReadState × List Char)
  | 0, _, _, _, _ => none
  | fuel + 1, st, alts, items, cs =>
      match st.flags.skip cs with
      | [] => some (altsExpr alts (itemsExpr items), st, [])
      | c :: r =>
          if c = ')' then some (altsExpr alts (itemsExpr items), st, c :: r)
          else if c = '|' then readItems fuel st (itemsExpr items :: alts) [] r
          else if c = '(' then
            match startGroup st r with
            | none => none
            | some (.flags f rest) =>
                readItems fuel { st with flags := f } alts (none :: items) rest
            | some (.group index inner rest) =>
                match readItems fuel inner [] [] rest with
                | some (e, after, ')' :: rest) =>
                    let e := match index with | some i => .group i e | none => e
                    readItems fuel { after with flags := st.flags } alts (some e :: items) rest
                | _ => none
          else if startsRepetition c then
            match items, readRepetition st.flags (c :: r) with
            | some e :: items, some ((min, max), isLazy, rest) =>
                let greedy := isLazy == st.flags.swapGreed
                readItems fuel st alts (some (.rounds min max greedy e) :: items) rest
            | _, _ => none
          else
            match readAtom st.flags (c :: r) with
            | some (e, rest) => readItems fuel st alts (some e :: items) rest
            | none => none

/-- The expression of a pattern that is read with the given flags. -/
def Expr.parse (flags : Flags) (pattern : List Char) : Option Expr :=
  match readItems (pattern.length + 1) (.initial flags) [] [] pattern with
  | some (e, _, []) => some e
  | _ => none

end PageModel.Regex
