/-!
# White space

The characters with the property `White_Space`, and the operations on text that are defined by
them: trimming, blankness, and the words of a text.
-/

namespace PageModel.Unicode

/-- The characters with the property `White_Space`. -/
def isBlank (c : Char) : Bool :=
  let n := c.toNat
  (0x09 ≤ n && n ≤ 0x0D) || n == 0x20 || n == 0x85 || n == 0xA0 || n == 0x1680
    || (0x2000 ≤ n && n ≤ 0x200A) || n == 0x2028 || n == 0x2029 || n == 0x202F || n == 0x205F
    || n == 0x3000

/-- A text without its leading white space. -/
def trimStart (cs : List Char) : List Char :=
  cs.dropWhile isBlank

/-- A text without its trailing white space. -/
def trimEnd (cs : List Char) : List Char :=
  (cs.reverse.dropWhile isBlank).reverse

/-- A text without its white space at both ends. -/
def trim (cs : List Char) : List Char :=
  trimEnd (trimStart cs)

/-- The maximal runs of characters that are not white space, in order; `word` holds the run
being read, reversed. -/
def wordsFrom : (word : List Char) → List Char → List (List Char)
  | word, [] => if word.isEmpty then [] else [word.reverse]
  | word, c :: cs =>
      if isBlank c then
        if word.isEmpty then wordsFrom [] cs else word.reverse :: wordsFrom [] cs
      else
        wordsFrom (c :: word) cs

/-- The words of a text: its maximal runs of characters that are not white space. -/
def words (cs : List Char) : List (List Char) :=
  wordsFrom [] cs

/-- The words of a text with one space between them. -/
def tidy (cs : List Char) : List Char :=
  (words cs).intersperse [' '] |>.flatten

/-- A string without its white space at both ends. -/
def trimText (s : String) : String :=
  String.ofList (trim s.toList)

/-- Whether a string holds nothing but white space. -/
def isBlankText (s : String) : Bool :=
  s.toList.all isBlank

end PageModel.Unicode
