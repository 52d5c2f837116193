import PageModel.Html.Scan.Comment
import PageModel.Html.Scan.Tag
import PageModel.Html.Scan.Text

/-!
# Reading tokens

`scan` reads the next tokens of an HTML text: one piece of markup, or one run of text divided
by the kinds of its characters. How text is read depends on the element that it stands in, so
each call takes the mode and the name of that element, and whether foreign content surrounds it.
What remains is shorter than what was read.
-/

namespace PageModel.Html

/-- How the next piece of text is to be read. -/
structure ScanContext where
  mode : TextMode
  element : String
  inForeign : Bool

/-- What a scan has read: the tokens, and the text after them. -/
abbrev Scanned := List Token × List Char

/-- A text with its line ends written as line feeds; `acc` is what is done, in reverse. -/
def normalizeLineEndsOnto (acc : List Char) : List Char → List Char
  | [] => acc.reverse
  | '\r' :: '\n' :: cs => normalizeLineEndsOnto ('\n' :: acc) cs
  | c :: cs => normalizeLineEndsOnto ((if c = '\r' then '\n' else c) :: acc) cs

/-- A text with its line ends written as line feeds and without a leading byte order mark. -/
def normalizeLineEnds (cs : List Char) : List Char :=
  normalizeLineEndsOnto [] (if cs.head? = some '\uFEFF' then cs.drop 1 else cs)

/-- The markup after `<!`. -/
def scanDeclaration (inForeign : Bool) (cs : List Char) : Scanned :=
  match cs with
  | '-' :: '-' :: r =>
      let (text, rest) := scanComment r
      ([.comment text], rest)
  | _ =>
      if String.ofList ((cs.take 7).map asciiLower) = "doctype" then
        let (d, rest) := scanDoctypeName [] (cs.drop 7)
        ([.doctype d], rest)
      else if inForeign && String.ofList (cs.take 7) == "[CDATA[" then
        let (text, rest) := scanCdata [] (cs.drop 7)
        (textTokens text, rest)
      else
        let (text, rest) := scanBogusComment [] cs
        ([.comment text], rest)

/-- The markup after an opening bracket. -/
def scanMarkup (inForeign : Bool) (cs : List Char) : Scanned :=
  match cs with
  | '!' :: r => scanDeclaration inForeign r
  | '?' :: _ =>
      let (text, rest) := scanBogusComment [] cs
      ([.comment text], rest)
  | '/' :: r =>
      match r with
      | '>' :: r' => ([], r')
      | c :: _ =>
          if c.isAlpha then
            match scanTag r with
            | some (t, rest) => ([.endTag t], rest)
            | none => ([], [])
          else
            let (text, rest) := scanBogusComment [] r
            ([.comment text], rest)
      | [] => ([], [])
  | _ =>
      match scanTag cs with
      | some (t, rest) => ([.startTag t], rest)
      | none => ([], [])

/-- The run of text that a context reads, and what follows it. -/
def scanRun (ctx : ScanContext) (cs : List Char) : TextRun :=
  match ctx.mode with
  | .data =>
      let (run, rest) := scanDataText [] cs
      (decode false run, rest)
  | .escapable =>
      let (run, rest) := scanElementText ctx.element.toList [] cs
      (decode false (withoutNulls run), rest)
  | .raw =>
      let (run, rest) := scanElementText ctx.element.toList [] cs
      (withoutNulls run, rest)
  | .script =>
      let (run, rest) := scanScriptText ⟨0, 0⟩ [] cs
      (withoutNulls run, rest)
  | .plain => (withoutNulls cs, [])

/-- The next tokens of a text. Where no run of text stands in front, there is markup, or a
bracket that opens none. -/
def scan (ctx : ScanContext) (cs : List Char) : Scanned :=
  let (run, rest) := scanRun ctx cs
  if rest.length < cs.length then
    (textTokens run, rest)
  else
    match cs with
    | [] => ([], [])
    | _ :: r => scanMarkup ctx.inForeign r

/-! ### What is read is left behind -/

theorem scanDeclaration_length_le (inForeign : Bool) (cs : List Char) :
  (scanDeclaration inForeign cs).2.length ≤ cs.length
  := by
  unfold scanDeclaration
  split
  · have := scanComment_length_le
    simp only [List.length_cons]
    exact Nat.le_trans (this _) (by omega)
  · have hd : (cs.drop 7).length ≤ cs.length := by simp
    split
    · exact Nat.le_trans (scanDoctypeName_length_le ..) hd
    · split
      · exact Nat.le_trans (scanCdata_length_le ..) hd
      · apply scanBogusComment_length_le

theorem scanMarkup_length_le (inForeign : Bool) (cs : List Char) :
  (scanMarkup inForeign cs).2.length ≤ cs.length
  := by
  unfold scanMarkup
  split
  · exact Nat.le_succ_of_le (scanDeclaration_length_le ..)
  · apply scanBogusComment_length_le
  · split
    · simp
      omega
    · split
      · split
        · next h =>
          have := scanTag_length_lt h
          simp only [List.length_cons] at *
          omega
        · simp
      · exact Nat.le_succ_of_le (scanBogusComment_length_le ..)
    · simp
  · split
    · next h => exact Nat.le_of_lt (scanTag_length_lt h)
    · simp

theorem scan_length_lt (ctx : ScanContext) (c : Char) (cs : List Char) :
  (scan ctx (c :: cs)).2.length < (c :: cs).length
  := by
  simp only [scan]
  split
  · assumption
  · exact Nat.lt_succ_of_le (scanMarkup_length_le ..)

end PageModel.Html
