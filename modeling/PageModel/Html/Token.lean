/-!
# Tokens of HTML text

The pieces that HTML text consists of: tags, comments, the document type, and runs of text.
-/

namespace PageModel.Html

/-- A start or end tag: its name in lower case, its attributes in the order of the text, the
first of those with one name, and whether it ends in a slash. -/
structure Tag where
  name : String
  attrs : List (String × String)
  selfClosing : Bool
deriving Repr, DecidableEq, Inhabited

/-- A document type: its name, its two identifiers, and whether it is malformed. -/
structure Doctype where
  name : String
  publicId : Option String
  systemId : Option String
  malformed : Bool
deriving Repr, DecidableEq

/-- The tokens. Text is a run of white space, a run of other characters, or a null character. -/
inductive Token where
  | doctype (d : Doctype)
  | startTag (t : Tag)
  | endTag (t : Tag)
  | comment (text : String)
  | blanks (text : String)
  | chars (text : String)
  | null
  | eof
deriving Repr, DecidableEq

/-- How the text after a start tag is read, up to the end tag that closes it: with markup and
references, with references only, as it is, as a script, or as it is to the end. -/
inductive TextMode where
  | data
  | escapable
  | raw
  | script
  | plain
deriving Repr, DecidableEq

/-- The white space of markup. -/
def isSpace (c : Char) : Bool :=
  c = ' ' || c = '\t' || c = '\n' || c = '\x0C' || c = '\r'

/-- The lower case of an ASCII letter; any other character is unchanged. -/
def asciiLower (c : Char) : Char :=
  if 'A' ≤ c ∧ c ≤ 'Z' then Char.ofNat (c.toNat + 32) else c

/-- Whether two texts are the same up to the case of ASCII letters. -/
def sameIgnoringAsciiCase (a b : List Char) : Bool :=
  a.map asciiLower = b.map asciiLower

/-- The kinds of characters that a run of text is divided by. -/
inductive TextClass where
  | blank
  | other
  | null
deriving DecidableEq

/-- The kind of a character. -/
def TextClass.of (c : Char) : TextClass :=
  if c = '\x00' then .null else if isSpace c then .blank else .other

/-- The token for a run of characters of one kind, given in reverse. -/
def TextClass.token (k : TextClass) (run : List Char) : Token :=
  match k with
  | .blank => .blanks (String.ofList run.reverse)
  | .other => .chars (String.ofList run.reverse)
  | .null => .null

/-- The tokens of a text that follows a run of kind `k`, given in reverse, and the tokens done,
also in reverse. -/
def textTokensFrom (k : TextClass) (run : List Char) (acc : List Token) :
    List Char → List Token
  | [] => (k.token run :: acc).reverse
  | c :: cs =>
      let k' := TextClass.of c
      if k' = k ∧ k ≠ .null then
        textTokensFrom k (c :: run) acc cs
      else
        textTokensFrom k' [c] (k.token run :: acc) cs

/-- The tokens of a text. -/
def textTokens : List Char → List Token
  | [] => []
  | c :: cs => textTokensFrom (TextClass.of c) [c] [] cs

end PageModel.Html
