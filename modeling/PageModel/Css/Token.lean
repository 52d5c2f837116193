import PageModel.Html.Token
import PageModel.Number.Digits

/-!
# Tokens of style text

The tokens that a selector is written with: names, which may hold escapes, numbers, strings,
signs and brackets. Every text is a sequence of tokens.
-/

namespace PageModel.Css

/-- The brackets. -/
inductive Bracket where
  | round
  | square
  | curly
deriving Repr, DecidableEq

/-- The comparisons of attribute values that are written with two signs. -/
inductive MatchSign where
  | word
  | dash
  | start
  | ending
  | part
deriving Repr, DecidableEq

/-- The tokens. A number has its value if it is a whole one, and tells whether it has a sign. -/
inductive Token where
  | blank
  | ident (name : String)
  | function (name : String)
  | atKeyword (name : String)
  | hash (name : String) (isIdent : Bool)
  | string (text : String)
  | badString
  | url
  | badUrl
  | number (value : Option Int) (signed : Bool)
  | dimension (value : Option Int) (unit : String)
  | percentage
  | colon
  | semicolon
  | comma
  | matchSign (sign : MatchSign)
  | commentMark
  | opening (bracket : Bracket)
  | closing (bracket : Bracket)
  | delim (c : Char)
deriving Repr, DecidableEq

/-! ### Characters -/

/-- The characters that end a line. -/
def isNewline (c : Char) : Bool :=
  c = '\n' || c = '\r' || c = '\x0C'

/-- White space. -/
def isBlank (c : Char) : Bool :=
  c = ' ' || c = '\t' || isNewline c

/-- The characters that a name may start with. -/
def isNameStart (c : Char) : Bool :=
  c.isAlpha || c = '_' || c = '\x00' || 0x80 ≤ c.toNat

/-- The characters of names. -/
def isNameChar (c : Char) : Bool :=
  isNameStart c || c.isDigit || c = '-'

/-- Whether a text goes on with a line end. -/
def startsNewline (cs : List Char) : Bool :=
  cs.head?.any isNewline

/-- Whether a text starts with a name. -/
def startsIdent : List Char → Bool
  | [] => false
  | '-' :: cs =>
      match cs with
      | [] => false
      | '\\' :: r => !startsNewline r
      | c :: _ => isNameStart c || c = '-'
  | '\\' :: cs => !startsNewline cs
  | c :: _ => isNameStart c

/-- Whether a text starts with a number. -/
def startsNumber (cs : List Char) : Bool :=
  let unsigned (cs : List Char) : Bool :=
    match cs with
    | '.' :: d :: _ => d.isDigit
    | d :: _ => d.isDigit
    | [] => false
  match cs with
  | '+' :: r => unsigned r
  | '-' :: r => unsigned r
  | r => unsigned r

/-! ### Names -/

/-- A text without one leading white space, where a carriage return and a line feed are one. -/
def dropOneBlank : List Char → List Char
  | '\r' :: '\n' :: cs => cs
  | c :: cs => if isBlank c then cs else c :: cs
  | [] => []

/-- The longest run of at most `n` hexadecimal digits at the start of a text. -/
def takeHex : (n : Nat) → List Char → List Char
  | 0, _ => []
  | _ + 1, [] => []
  | n + 1, c :: cs => if isHexDigit c then c :: takeHex n cs else []

/-- The character that an escape stands for, its backslash being read, and what follows it. -/
def readEscape (cs : List Char) : Char × List Char :=
  match cs with
  | [] => ('\uFFFD', [])
  | c :: r =>
      let digits := takeHex 6 cs
      if digits.isEmpty then (if c = '\x00' then '\uFFFD' else c, r)
      else
        let n := valueIn 16 digits
        let char :=
          if n = 0 ∨ 0x10FFFF < n ∨ (0xD800 ≤ n ∧ n ≤ 0xDFFF) then '\uFFFD' else Char.ofNat n
        (char, dropOneBlank (cs.drop digits.length))

theorem dropOneBlank_length_le (cs : List Char) :
  (dropOneBlank cs).length ≤ cs.length
  := by
  unfold dropOneBlank
  split
  · simp
    omega
  · split <;> simp
  · simp

theorem readEscape_length_le (cs : List Char) :
  (readEscape cs).2.length ≤ cs.length
  := by
  unfold readEscape
  split
  · simp
  · next c r =>
    simp only
    split
    · simp
    · apply Nat.le_trans (dropOneBlank_length_le _)
      simp

/-- A name, as long as it goes; `acc` is what is read, in reverse. -/
def readName (acc : List Char) (cs : List Char) : String × List Char :=
  match cs with
  | [] => (String.ofList acc.reverse, [])
  | c :: r =>
      if c = '\\' then
        if startsNewline r then (String.ofList acc.reverse, c :: r)
        else
          have := readEscape_length_le r
          readName ((readEscape r).1 :: acc) (readEscape r).2
      else if isNameChar c then
        readName ((if c = '\x00' then '\uFFFD' else c) :: acc) r
      else
        (String.ofList acc.reverse, c :: r)
termination_by cs.length

/-! ### Strings, addresses and comments -/

/-- A string up to its closing quote; a line end breaks it off. -/
def readString (quote : Char) (acc : List Char) (cs : List Char) : Token × List Char :=
  match cs with
  | [] => (.string (String.ofList acc.reverse), [])
  | c :: r =>
      if c = quote then (.string (String.ofList acc.reverse), r)
      else if isNewline c then (.badString, c :: r)
      else if c = '\\' then
        if r.isEmpty then (.string (String.ofList acc.reverse), [])
        else if startsNewline r then
          have := dropOneBlank_length_le r
          readString quote acc (dropOneBlank r)
        else
          have := readEscape_length_le r
          readString quote ((readEscape r).1 :: acc) (readEscape r).2
      else
        readString quote ((if c = '\x00' then '\uFFFD' else c) :: acc) r
termination_by cs.length

/-- A comment's rest, after its closing mark. -/
def skipComment : List Char → List Char
  | [] => []
  | '*' :: '/' :: cs => cs
  | _ :: cs => skipComment cs

/-- An address without quotes up to its closing bracket; it is bad if it holds quotes, brackets
or white space inside. -/
def readUrl (cs : List Char) : Token × List Char :=
  let body := cs.takeWhile (· != ')')
  let inner := (body.dropWhile isBlank).reverse.dropWhile isBlank
  let bad := inner.any fun c => c = '"' || c = '\'' || c = '(' || isBlank c
  (if bad then .badUrl else .url, (cs.dropWhile (· != ')')).drop 1)

/-! ### Numbers -/

/-- The bound of whole numbers: greater ones are cut to it. -/
def numberBound : Int := 2147483647

/-- A number cut to the bounds. -/
def clampNumber (n : Int) : Int :=
  if n < -numberBound - 1 then -numberBound - 1 else if numberBound < n then numberBound else n

/-- The digits after a decimal point, with the point, if there are any. -/
def fractionLength : List Char → Nat
  | '.' :: cs =>
      let n := (cs.takeWhile Char.isDigit).length
      if n = 0 then 0 else n + 1
  | _ => 0

/-- The length of an exponent. -/
def exponentLength : List Char → Nat
  | c :: cs =>
      if c = 'e' ∨ c = 'E' then
        match cs with
        | s :: r =>
            if s = '+' ∨ s = '-' then
              let n := (r.takeWhile Char.isDigit).length
              if n = 0 then 0 else n + 2
            else
              let n := (cs.takeWhile Char.isDigit).length
              if n = 0 then 0 else n + 1
        | [] => 0
      else 0
  | [] => 0

/-- A number with what belongs to it: a unit or a percent sign. -/
def readNumeric (cs : List Char) : Token × List Char :=
  let signed := cs.head?.any fun c => c = '+' || c = '-'
  let unsigned := if signed then cs.drop 1 else cs
  let digits := unsigned.takeWhile Char.isDigit
  let afterDigits := unsigned.drop digits.length
  let fraction := fractionLength afterDigits
  let afterFraction := afterDigits.drop fraction
  let exponent := exponentLength afterFraction
  let rest := afterFraction.drop exponent
  let magnitude : Int := decimalValue digits
  let value :=
    if fraction = 0 ∧ exponent = 0 then
      some (clampNumber (if cs.head? = some '-' then -magnitude else magnitude))
    else none
  match rest with
  | '%' :: r => (.percentage, r)
  | _ =>
      if startsIdent rest then
        let (unit, r) := readName [] rest
        (.dimension value unit, r)
      else
        (.number value signed, rest)

/-! ### The next token -/

/-- A name, or a function if a bracket follows. -/
def readIdentLike (cs : List Char) : Token × List Char :=
  let (name, rest) := readName [] cs
  match rest with
  | '(' :: r =>
      if name.toList.map Html.asciiLower = "url".toList then
        match r.dropWhile isBlank with
        | c :: _ => if c = '"' ∨ c = '\'' then (.function name, r) else readUrl r
        | [] => readUrl r
      else
        (.function name, r)
  | _ => (.ident name, rest)

/-- A sign that, followed by an equals sign, compares attribute values. -/
def readMatchSign (c : Char) (sign : MatchSign) (r : List Char) : Token × List Char :=
  match r with
  | '=' :: r' => (.matchSign sign, r')
  | _ => (.delim c, r)

/-- The token that a sign stands for, if it stands for one whatever follows. -/
def signToken? : Char → Option Token
  | '(' => some (.opening .round)
  | ')' => some (.closing .round)
  | '[' => some (.opening .square)
  | ']' => some (.closing .square)
  | '\x7b' => some (.opening .curly)
  | '\x7d' => some (.closing .curly)
  | ',' => some .comma
  | ':' => some .colon
  | ';' => some .semicolon
  | _ => none

/-- The sign of a comparison, by its first character. -/
def matchSign? : Char → Option MatchSign
  | '~' => some .word
  | '|' => some .dash
  | '^' => some .start
  | '$' => some .ending
  | '*' => some .part
  | _ => none

/-- The token that starts with a character, and what follows it; `none` for a comment. -/
def readToken (c : Char) (r : List Char) : Option Token × List Char :=
  let found (t : Token × List Char) : Option Token × List Char := (some t.1, t.2)
  if isBlank c then (some .blank, r.dropWhile isBlank)
  else if c = '"' ∨ c = '\'' then found (readString c [] r)
  else if c = '#' then
    if startsIdent r then
      let (name, rest) := readName [] r
      (some (.hash name true), rest)
    else if r.head?.any fun d => d.isDigit || d = '-' then
      let (name, rest) := readName [] r
      (some (.hash name false), rest)
    else
      (some (.delim c), r)
  else if startsNumber (c :: r) then found (readNumeric (c :: r))
  else if c = '/' ∧ r.head? = some '*' then (none, skipComment (r.drop 1))
  else if c = '-' ∧ r.take 2 = ['-', '>'] then (some .commentMark, r.drop 2)
  else if c = '<' ∧ r.take 3 = ['!', '-', '-'] then (some .commentMark, r.drop 3)
  else if c = '@' ∧ startsIdent r then
    let (name, rest) := readName [] r
    (some (.atKeyword name), rest)
  else if startsIdent (c :: r) then found (readIdentLike (c :: r))
  else
    match signToken? c with
    | some t => (some t, r)
    | none =>
        match matchSign? c with
        | some sign => found (readMatchSign c sign r)
        | none => (some (.delim c), r)

/-- The tokens of a text, at most `bound` of them; comments are left out. -/
def tokensWithin : (bound : Nat) → List Char → List Token
  | 0, _ => []
  | _, [] => []
  | bound + 1, c :: cs =>
      match readToken c cs with
      | (some t, rest) => t :: tokensWithin bound rest
      | (none, rest) => tokensWithin bound rest

/-- The tokens of a text. There are no more of them than characters. -/
def tokens (text : String) : List Token :=
  tokensWithin text.length text.toList

end PageModel.Css
