import PageModel.Html.Reference
import PageModel.Html.Token

/-!
# Tags

A tag is read from the character after its name's first bracket or slash: the name, then the
attributes, each a name with an optional value that is quoted or bare. A text that ends inside
a tag holds no tag.
-/

namespace PageModel.Html

/-- The character that a name or a value keeps for a character of the text. -/
def keptChar (c : Char) : Char :=
  if c = '\x00' then '\uFFFD' else c

/-- The places in the list of attributes of a tag. The parts that are being read are held in
reverse. -/
inductive AttrPlace where
  | between
  | name (name : List Char)
  | afterName (name : List Char)
  | valueStart (name : List Char)
  | quoted (quote : Char) (name value : List Char)
  | bare (name value : List Char)
  | slash

/-- The attributes, in reverse, with one more, unless its name is taken. -/
def addAttr (attrs : List (String × String)) (name value : List Char) :
    List (String × String) :=
  let key := String.ofList name.reverse
  if attrs.any (·.1 == key) then attrs
  else (key, String.ofList (decode true value.reverse)) :: attrs

/-- What is read of a tag's attributes at its closing bracket. -/
structure AttrsRead where
  attrs : List (String × String)
  selfClosing : Bool
  rest : List Char

/-- The place after a character that starts a name or stands between the attributes. -/
def AttrPlace.start (c : Char) : AttrPlace :=
  if isSpace c then .between
  else if c = '/' then .slash
  else .name [keptChar (asciiLower c)]

/-- The attributes of a tag up to its closing bracket, `none` if the text ends before. -/
def scanAttrs : AttrPlace → List (String × String) → List Char → Option AttrsRead
  | _, _, [] => none
  | .between, attrs, c :: cs =>
      if c = '>' then some ⟨attrs.reverse, false, cs⟩
      else scanAttrs (.start c) attrs cs
  | .slash, attrs, c :: cs =>
      if c = '>' then some ⟨attrs.reverse, true, cs⟩
      else scanAttrs (.start c) attrs cs
  | .name n, attrs, c :: cs =>
      if c = '>' then some ⟨(addAttr attrs n []).reverse, false, cs⟩
      else if isSpace c then scanAttrs (.afterName n) attrs cs
      else if c = '/' then scanAttrs .slash (addAttr attrs n []) cs
      else if c = '=' then scanAttrs (.valueStart n) attrs cs
      else scanAttrs (.name (keptChar (asciiLower c) :: n)) attrs cs
  | .afterName n, attrs, c :: cs =>
      if c = '>' then some ⟨(addAttr attrs n []).reverse, false, cs⟩
      else if isSpace c then scanAttrs (.afterName n) attrs cs
      else if c = '=' then scanAttrs (.valueStart n) attrs cs
      else scanAttrs (.start c) (addAttr attrs n []) cs
  | .valueStart n, attrs, c :: cs =>
      if c = '>' then some ⟨(addAttr attrs n []).reverse, false, cs⟩
      else if isSpace c then scanAttrs (.valueStart n) attrs cs
      else if c = '"' ∨ c = '\'' then scanAttrs (.quoted c n []) attrs cs
      else scanAttrs (.bare n [keptChar c]) attrs cs
  | .quoted q n v, attrs, c :: cs =>
      if c = q then scanAttrs .between (addAttr attrs n v) cs
      else scanAttrs (.quoted q n (keptChar c :: v)) attrs cs
  | .bare n v, attrs, c :: cs =>
      if c = '>' then some ⟨(addAttr attrs n v).reverse, false, cs⟩
      else if isSpace c then scanAttrs .between (addAttr attrs n v) cs
      else scanAttrs (.bare n (keptChar c :: v)) attrs cs

/-- A tag from the first character of its name on, with the text after it; `name` is the part of
the name that is read, in reverse. -/
def scanTagFrom (name : List Char) : List Char → Option (Tag × List Char)
  | [] => none
  | c :: cs =>
      let close (place : AttrPlace) :=
        (scanAttrs place [] cs).map fun r =>
          (⟨String.ofList name.reverse, r.attrs, r.selfClosing⟩, r.rest)
      if c = '>' then some (⟨String.ofList name.reverse, [], false⟩, cs)
      else if isSpace c then close .between
      else if c = '/' then close .slash
      else scanTagFrom (keptChar (asciiLower c) :: name) cs

/-- A tag whose name starts with the first character of a text. -/
def scanTag (cs : List Char) : Option (Tag × List Char) :=
  scanTagFrom [] cs

/-! ### What is read is left behind -/

theorem scanAttrs_length_lt {place : AttrPlace} {attrs : List (String × String)}
    {cs : List Char} {r : AttrsRead} (h : scanAttrs place attrs cs = some r) :
  r.rest.length < cs.length
  := by
  induction cs generalizing place attrs with
  | nil => simp [scanAttrs] at h
  | cons c cs ih =>
    cases place <;> simp only [scanAttrs] at h <;> repeat' split at h
    all_goals first
      | (have hlt := ih h; simp only [List.length_cons]; omega)
      | (cases h; simp)

theorem scanTagFrom_length_lt {name cs : List Char} {t : Tag} {rest : List Char}
    (h : scanTagFrom name cs = some (t, rest)) :
  rest.length < cs.length
  := by
  induction cs generalizing name with
  | nil => simp [scanTagFrom] at h
  | cons c cs ih =>
    simp only [scanTagFrom] at h
    split at h
    · cases h
      simp
    · split at h
      · obtain ⟨r, hr, he⟩ := Option.map_eq_some_iff.1 h
        cases he
        have := scanAttrs_length_lt hr
        simp only [List.length_cons]
        omega
      · split at h
        · obtain ⟨r, hr, he⟩ := Option.map_eq_some_iff.1 h
          cases he
          have := scanAttrs_length_lt hr
          simp only [List.length_cons]
          omega
        · have := ih h
          simp only [List.length_cons]
          omega

theorem scanTag_length_lt {cs : List Char} {t : Tag} {rest : List Char}
    (h : scanTag cs = some (t, rest)) :
  rest.length < cs.length
  :=
  scanTagFrom_length_lt h

end PageModel.Html
