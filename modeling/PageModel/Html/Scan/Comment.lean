import PageModel.Html.Token
import PageModel.Html.Scan.Tag

/-!
# Comments and document types

What an opening bracket with an exclamation mark or a question mark introduces. A comment ends
at the first of its closing marks; a malformed declaration is a comment up to the next closing
bracket.
-/

namespace PageModel.Html

/-- The text of a comment from its reverse. -/
def commentText (acc : List Char) : String :=
  String.ofList acc.reverse

/-- The body of a comment, up to its closing mark; `acc` is what is read, in reverse. A comment
that the text ends in loses the closing mark that it has begun. -/
def scanCommentBody (acc : List Char) : List Char → String × List Char
  | '-' :: '-' :: '>' :: cs => (commentText acc, cs)
  | '-' :: '-' :: '!' :: '>' :: cs => (commentText acc, cs)
  | ['-', '-', '!'] => (commentText acc, [])
  | ['-', '-'] => (commentText acc, [])
  | ['-'] => (commentText acc, [])
  | [] => (commentText acc, [])
  | c :: cs => scanCommentBody (keptChar c :: acc) cs

/-- A comment after its opening mark. -/
def scanComment : List Char → String × List Char
  | '>' :: cs => ("", cs)
  | '-' :: '>' :: cs => ("", cs)
  | cs => scanCommentBody [] cs

/-- A malformed declaration, up to the next closing bracket, as the text of a comment. -/
def scanBogusComment (acc : List Char) : List Char → String × List Char
  | [] => (commentText acc, [])
  | c :: cs => if c = '>' then (commentText acc, cs) else scanBogusComment (keptChar c :: acc) cs

/-- A section of plain text in foreign content, up to its closing mark. -/
def scanCdata (acc : List Char) : List Char → List Char × List Char
  | ']' :: ']' :: '>' :: cs => (acc.reverse, cs)
  | [] => (acc.reverse, [])
  | c :: cs => scanCdata (c :: acc) cs

/-! ### Document types -/

/-- The places in a document type after its name. -/
inductive DoctypePlace where
  | afterName
  | beforeId (isPublic : Bool)
  | id (isPublic : Bool) (quote : Char) (value : List Char)
  | afterPublic
  | afterSystem
  | bogus

/-- A document type with an identifier. -/
def Doctype.withId (d : Doctype) (isPublic : Bool) (value : List Char) : Doctype :=
  let text := some (String.ofList value.reverse)
  if isPublic then { d with publicId := text } else { d with systemId := text }

/-- A malformed document type. -/
def Doctype.spoilt (d : Doctype) : Doctype :=
  { d with malformed := true }

/-- A document type after its name, up to its closing bracket. The list of characters that the
keyword of an identifier still takes is counted down in `skip`. -/
def scanDoctypeRest : (skip : Nat) → DoctypePlace → Doctype → List Char → Doctype × List Char
  | _, .bogus, d, [] => (d, [])
  | _, _, d, [] => (d.spoilt, [])
  | n + 1, place, d, _ :: cs => scanDoctypeRest n place d cs
  | 0, .afterName, d, c :: cs =>
      if isSpace c then scanDoctypeRest 0 .afterName d cs
      else if c = '>' then (d, cs)
      else
        let keyword := String.ofList (((c :: cs).take 6).map asciiLower)
        if keyword = "public" then scanDoctypeRest 5 (.beforeId true) d cs
        else if keyword = "system" then scanDoctypeRest 5 (.beforeId false) d cs
        else scanDoctypeRest 0 .bogus d.spoilt cs
  | 0, .beforeId isPublic, d, c :: cs =>
      if isSpace c then scanDoctypeRest 0 (.beforeId isPublic) d cs
      else if c = '"' ∨ c = '\'' then scanDoctypeRest 0 (.id isPublic c []) d cs
      else if c = '>' then (d.spoilt, cs)
      else scanDoctypeRest 0 .bogus d.spoilt cs
  | 0, .id isPublic quote value, d, c :: cs =>
      if c = quote then
        scanDoctypeRest 0 (if isPublic then .afterPublic else .afterSystem)
          (d.withId isPublic value) cs
      else if c = '>' then ((d.withId isPublic value).spoilt, cs)
      else scanDoctypeRest 0 (.id isPublic quote (keptChar c :: value)) d cs
  | 0, .afterPublic, d, c :: cs =>
      if isSpace c then scanDoctypeRest 0 .afterPublic d cs
      else if c = '"' ∨ c = '\'' then scanDoctypeRest 0 (.id false c []) d cs
      else if c = '>' then (d, cs)
      else scanDoctypeRest 0 .bogus d.spoilt cs
  | 0, .afterSystem, d, c :: cs =>
      if isSpace c then scanDoctypeRest 0 .afterSystem d cs
      else if c = '>' then (d, cs)
      else scanDoctypeRest 0 .bogus d cs
  | 0, .bogus, d, c :: cs =>
      if c = '>' then (d, cs) else scanDoctypeRest 0 .bogus d cs

/-- The name of a document type, in reverse in `name`, and what follows it. -/
def scanDoctypeName (name : List Char) : List Char → Doctype × List Char
  | [] => (⟨String.ofList name.reverse, none, none, true⟩, [])
  | c :: cs =>
      if c = '>' then (⟨String.ofList name.reverse, none, none, name.isEmpty⟩, cs)
      else if isSpace c then
        if name.isEmpty then scanDoctypeName name cs
        else scanDoctypeRest 0 .afterName ⟨String.ofList name.reverse, none, none, false⟩ cs
      else scanDoctypeName (keptChar (asciiLower c) :: name) cs

/-! ### What is read is left behind -/

theorem scanCommentBody_length_le (acc cs : List Char) :
  (scanCommentBody acc cs).2.length ≤ cs.length
  := by
  fun_induction scanCommentBody acc cs <;> simp_all <;> omega

theorem scanComment_length_le (cs : List Char) :
  (scanComment cs).2.length ≤ cs.length
  := by
  unfold scanComment
  split
  · simp
  · simp
    omega
  · apply scanCommentBody_length_le

theorem scanBogusComment_length_le (acc cs : List Char) :
  (scanBogusComment acc cs).2.length ≤ cs.length
  := by
  fun_induction scanBogusComment acc cs <;> simp_all
  omega

theorem scanCdata_length_le (acc cs : List Char) :
  (scanCdata acc cs).2.length ≤ cs.length
  := by
  fun_induction scanCdata acc cs <;> simp_all <;> omega

theorem scanDoctypeRest_length_le (skip : Nat) (place : DoctypePlace) (d : Doctype)
    (cs : List Char) :
  (scanDoctypeRest skip place d cs).2.length ≤ cs.length
  := by
  induction cs generalizing skip place d with
  | nil => cases place <;> simp [scanDoctypeRest]
  | cons c cs ih =>
    cases skip with
    | succ n =>
      have := ih n place d
      cases place <;> simp only [scanDoctypeRest, List.length_cons] <;> omega
    | zero =>
      cases place <;> simp only [scanDoctypeRest, List.length_cons] <;> repeat' split
      all_goals first
        | exact Nat.le_succ_of_le (ih ..)
        | simp

theorem scanDoctypeName_length_le (name cs : List Char) :
  (scanDoctypeName name cs).2.length ≤ cs.length
  := by
  induction cs generalizing name with
  | nil => simp [scanDoctypeName]
  | cons c cs ih =>
    simp only [scanDoctypeName, List.length_cons]
    repeat' split
    · simp
    · exact Nat.le_succ_of_le (ih ..)
    · exact Nat.le_succ_of_le (scanDoctypeRest_length_le ..)
    · exact Nat.le_succ_of_le (ih ..)

end PageModel.Html
