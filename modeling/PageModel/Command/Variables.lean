import PageModel.Unicode.Blank
import PageModel.Unicode.CharClass

/-!
# Variables from a file

A text of lines that set variables, each a name, an equals sign and a value. A value may be
quoted; a quoted one may go on over several lines. A variable of which the value is asked for
after a dollar sign is one that was set before, in the surroundings or in the text. The first line
that is malformed ends the reading; variables that are set in the surroundings keep their values.
-/

namespace PageModel.Command

/-- Variables with their values. -/
abbrev Variables := List (String × String)

/-! ### Lines -/

/-- Where a text stands with respect to quotes, escapes and comments. -/
inductive QuoteState where
  | plain
  | escaped
  | strong
  | strongEscaped
  | weak
  | weakEscaped
  | blank
  | comment
deriving Repr, DecidableEq

/-- The state after a character in plain text. -/
def afterPlain (c : Char) : QuoteState :=
  if c = '\\' then .escaped
  else if c = '"' then .weak
  else if c = '\'' then .strong
  else .plain

/-- The state after a character. -/
def QuoteState.next (s : QuoteState) (c : Char) : QuoteState :=
  match s with
  | .blank => if c = '#' then .comment else afterPlain c
  | .plain =>
      if Unicode.isBlank c && c != '\n' && c != '\r' then .blank else afterPlain c
  | .escaped => .plain
  | .weak => if c = '\\' then .weakEscaped else if c = '"' then .plain else .weak
  | .weakEscaped => .weak
  | .strong => if c = '\\' then .strongEscaped else if c = '\'' then .plain else .strong
  | .strongEscaped => .strong
  | .comment => .comment

/-- The state after a line, and the line without a comment that follows a blank. -/
def scanLine (s : QuoteState) : List Char → QuoteState × List Char
  | [] => (s, [])
  | c :: cs =>
      let s := s.next c
      if s = .comment then (.comment, [])
      else
        let (last, kept) := scanLine s cs
        (last, c :: kept)

/-- The lines of a text, each with the line feed that ends it. -/
def rawLines (line : List Char) : List Char → List (List Char)
  | [] => if line.isEmpty then [] else [line.reverse]
  | c :: cs => if c = '\n' then (c :: line).reverse :: rawLines [] cs else rawLines (c :: line) cs

/-- A line without the line end. -/
def withoutLineEnd (line : List Char) : List Char :=
  match line.reverse with
  | '\n' :: '\r' :: rest => rest.reverse
  | '\n' :: rest => rest.reverse
  | _ => line

/-- The lines of a text, where a line that ends within quotes goes on in the next one; `started` is
what has been read of a line. A line that the text ends in is missing. -/
def logicalLines (s : QuoteState) (started : List Char) :
    List (List Char) → List (Option (List Char))
  | [] => if s = .plain then [] else [none]
  | line :: lines =>
      let text := started ++ line
      if (Unicode.trimStart text).head? = some '#' then some [] :: logicalLines .plain [] lines
      else
        match scanLine s line with
        | (.plain, _) => some (withoutLineEnd text) :: logicalLines .plain [] lines
        | (.comment, kept) => some (started ++ kept) :: logicalLines .plain [] lines
        | (s, _) => logicalLines s text lines

/-! ### Values -/

/-- The state while a value is read: the value so far, the quotes it is in, and the name of a
variable being read, if one is. -/
structure ValueState where
  value : List Char := []
  strong : Bool := false
  weak : Bool := false
  escaped : Bool := false
  ended : Bool := false
  name : Option (Bool × List Char) := none

/-- The state with the value of a variable put in. -/
def ValueState.substitute (s : ValueState) (valueOf : String → String) (name : List Char) :
    ValueState :=
  { s with value := s.value ++ (valueOf (String.ofList name)).toList, name := none }

/-- The state with one more character. -/
def ValueState.push (s : ValueState) (c : Char) : ValueState :=
  { s with value := s.value ++ [c] }

/-- The state after a character while the name of a variable is read; `braced` tells whether the
name is in braces. -/
def ValueState.readName (s : ValueState) (valueOf : String → String) (braced : Bool)
    (name : List Char) (c : Char) : ValueState :=
  if Unicode.isAlphanumeric c then { s with name := some (braced, name ++ [c]) }
  else if braced then
    if c = '\x7d' then s.substitute valueOf name else { s with name := some (true, name ++ [c]) }
  else if c = '\x7b' ∧ name.isEmpty then { s with name := some (true, []) }
  else
    let s := s.substitute valueOf name
    if c = '$' then { s with name := some (false, []) } else s.push c

/-- The state after a character, and whether the value ends there. -/
def ValueState.read (s : ValueState) (valueOf : String → String) (c : Char) :
    Option (ValueState × Bool) :=
  if s.ended then
    if c = ' ' ∨ c = '\t' then some (s, false) else if c = '#' then some (s, true) else none
  else if s.escaped then
    if ['\\', '\'', '"', '$', ' '].contains c then some ({ s.push c with escaped := false }, false)
    else if c = 'n' then some ({ s.push '\n' with escaped := false }, false)
    else none
  else if s.strong then
    some (if c = '\'' then { s with strong := false } else s.push c, false)
  else
    match s.name with
    | some (braced, name) => some (s.readName valueOf braced name c, false)
    | none =>
        if c = '$' then some ({ s with name := some (false, []) }, false)
        else if s.weak then
          if c = '"' then some ({ s with weak := false }, false)
          else if c = '\\' then some ({ s with escaped := true }, false)
          else some (s.push c, false)
        else if c = '\'' then some ({ s with strong := true }, false)
        else if c = '"' then some ({ s with weak := true }, false)
        else if c = '\\' then some ({ s with escaped := true }, false)
        else if c = ' ' ∨ c = '\t' then some ({ s with ended := true }, false)
        else some (s.push c, false)

/-- The state after characters, up to the end of the value. -/
def ValueState.readAll (s : ValueState) (valueOf : String → String) :
    List Char → Option ValueState
  | [] => some s
  | c :: cs =>
      match s.read valueOf c with
      | none => none
      | some (s, true) => some s
      | some (s, false) => s.readAll valueOf cs

/-- The value that a text denotes, given the values of variables. -/
def readValue (valueOf : String → String) (cs : List Char) : Option String :=
  match ({} : ValueState).readAll valueOf cs with
  | none => none
  | some s =>
      if s.strong || s.weak then none
      else
        match s.name with
        | some (true, _) => none
        | some (false, name) => some (String.ofList (s.substitute valueOf name).value)
        | none => some (String.ofList s.value)

/-! ### Assignments -/

/-- The name at the start of a line, and the text after it and the blanks that follow. -/
def readName (cs : List Char) : Option (String × List Char) :=
  if cs.head?.any fun c => c.isAlpha || c = '_' then
    let name := cs.takeWhile fun c => c.isAlphanum || c = '_' || c = '.'
    some (String.ofList name, Unicode.trimStart (cs.drop name.length))
  else none

/-- The name that a line sets, possibly after the word `export`, and the text after the equals
sign. -/
def readTarget (cs : List Char) : Option (String × List Char) :=
  match readName cs with
  | none => none
  | some (name, '=' :: rest) => some (name, Unicode.trimStart rest)
  | some ("export", rest) =>
      match readName rest with
      | some (name, '=' :: rest) => some (name, Unicode.trimStart rest)
      | _ => none
  | some _ => none

/-- What a line sets, if anything. A malformed line gives nothing. -/
def readLine (valueOf : String → String) (line : List Char) :
    Option (Option (String × Option String)) :=
  let cs := Unicode.trimStart (Unicode.trimEnd line)
  if cs.isEmpty ∨ cs.head? = some '#' then some none
  else
    match readTarget cs with
    | none => none
    | some (name, rest) =>
        if rest.isEmpty ∨ rest.head? = some '#' then some (some (name, none))
        else (readValue valueOf rest).map fun value => some (name, some value)

/-- The variables after lines have been read; `stored` are those that the lines before have set. -/
def readLines (vars stored : Variables) : List (Option (List Char)) → Variables
  | [] => vars
  | none :: _ => vars
  | some line :: lines =>
      let valueOf (name : String) : String :=
        ((vars.lookup name).or (stored.lookup name)).getD ""
      match readLine valueOf line with
      | none => vars
      | some none => readLines vars stored lines
      | some (some (name, value)) =>
          let value := value.getD ""
          let vars :=
            if (vars.lookup name).isSome then vars else vars ++ [(name, value)]
          readLines vars ((name, value) :: stored) lines

/-- Variables with those added that a text sets. -/
def Variables.withFile (vars : Variables) (text : String) : Variables :=
  let cs := text.toList
  let cs := if cs.head? = some '\ufeff' then cs.drop 1 else cs
  readLines vars [] (logicalLines .plain [] (rawLines [] cs))

/-- The names that a text asks for after dollar signs, and those that it sets. -/
def mentionedNames (cs : List Char) : List String :=
  ((cs.splitBy fun a b =>
    let isName (c : Char) : Bool := Unicode.isAlphanumeric c || c = '_' || c = '.'
    isName a && isName b).map String.ofList).eraseDups

end PageModel.Command
