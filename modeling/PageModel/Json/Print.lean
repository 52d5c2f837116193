import PageModel.Json.Value
import PageModel.Text.Quoted

/-!
# The text of JSON values

Values are written without white space. In strings only the quote, the backslash and control
characters are escaped.
-/

namespace PageModel.Json

/-- The last four digits of a number in base 16. -/
def hexUnitChars (n : Nat) : List Char :=
  let ds := Text.hexDigits n
  List.replicate (4 - ds.length) '0' ++ ds

/-- A character of a string. -/
def escapedChar (c : Char) : List Char :=
  if c = '"' then ['\\', '"']
  else if c = '\\' then ['\\', '\\']
  else if c = '\x08' then ['\\', 'b']
  else if c = '\x0c' then ['\\', 'f']
  else if c = '\n' then ['\\', 'n']
  else if c = '\r' then ['\\', 'r']
  else if c = '\t' then ['\\', 't']
  else if c.toNat < 0x20 then ['\\', 'u'] ++ hexUnitChars c.toNat
  else [c]

/-- A string between its quotes. -/
def stringChars (s : String) : List Char :=
  ['"'] ++ s.toList.flatMap escapedChar ++ ['"']

mutual

/-- The characters of the text of a value. -/
def Value.chars : Value → List Char
  | .null => "null".toList
  | .boolean b => if b then "true".toList else "false".toList
  | .number n => n.chars
  | .string s => stringChars s
  | .array items => ['['] ++ itemsChars items ++ [']']
  | .object members => ['\x7b'] ++ membersChars members ++ ['\x7d']

/-- The characters of the texts of values, with commas between them. -/
def itemsChars : List Value → List Char
  | [] => []
  | v :: vs => v.chars ++ (match vs with | [] => [] | _ :: _ => [',']) ++ itemsChars vs

/-- The characters of the texts of members, with commas between them. -/
def membersChars : List (String × Value) → List Char
  | [] => []
  | (name, v) :: ms =>
      stringChars name ++ [':'] ++ v.chars ++ (match ms with | [] => [] | _ :: _ => [','])
        ++ membersChars ms

end

/-- The text of a value. -/
def Value.text (v : Value) : String :=
  String.ofList v.chars

end PageModel.Json
