import PageModel.Json.Scan
import PageModel.Json.Value

/-!
# Reading JSON texts

Readers for values of given shapes. A text is read from left to right and the first fault ends the
reading, whether it is one of the text or one of the shape. A record may be given by its members or
by their values in a row; members that are not asked for are passed over.
-/

namespace PageModel.Json

/-- A reader of values. -/
abbrev Reader (α : Type) := List Char → Reading α

/-- A reading that fails without saying more than that the text is malformed. -/
def orMalformed {α : Type} : Option α → Except Fault α
  | some a => .ok a
  | none => .error .malformed

/-- The fault of a place where something else was asked for. What stands there is named; if it is
malformed itself, that is the fault. -/
def mismatch (expected : Expected) (cs : List Char) : Fault :=
  match cs with
  | 'n' :: rest =>
      if (dropStart? "ull".toList rest).isSome then .invalidType .null expected else .malformed
  | 't' :: rest =>
      if (dropStart? "rue".toList rest).isSome then .invalidType (.boolean true) expected
      else .malformed
  | 'f' :: rest =>
      if (dropStart? "alse".toList rest).isSome then .invalidType (.boolean false) expected
      else .malformed
  | '"' :: rest =>
      match readChars rest with
      | some (s, _) => .invalidType (.string (String.ofList s)) expected
      | none => .malformed
  | '[' :: _ => .invalidType .sequence expected
  | '\x7b' :: _ => .invalidType .map expected
  | rest =>
      match readNumber rest with
      | some (n, _) => .invalidType (.number n) expected
      | none => .malformed

/-! ### Simple shapes -/

/-- A string. -/
def readString : Reader String := fun cs =>
  match skipSpace cs with
  | '"' :: rest =>
      match readChars rest with
      | some (s, rest) => .ok (String.ofList s, rest)
      | none => .error .malformed
  | rest => .error (mismatch .string rest)

/-- A truth value. -/
def readBoolean : Reader Bool := fun cs =>
  match skipSpace cs with
  | 't' :: rest => (orMalformed (dropStart? "rue".toList rest)).map fun rest => (true, rest)
  | 'f' :: rest => (orMalformed (dropStart? "alse".toList rest)).map fun rest => (false, rest)
  | rest => .error (mismatch .boolean rest)

/-- A value or null. -/
def readOptional {α : Type} (r : Reader α) : Reader (Option α) := fun cs =>
  match skipSpace cs with
  | 'n' :: rest => (orMalformed (dropStart? "ull".toList rest)).map fun rest => (none, rest)
  | rest => (r rest).map fun (a, rest) => (some a, rest)

/-! ### Sequences and maps -/

/-- The items of a sequence up to the bracket that closes it, at most `fuel` of them. -/
def readItems {α : Type} (r : Reader α) : (fuel : Nat) → Reader (List α)
  | 0, _ => .error .malformed
  | fuel + 1, cs =>
      match r cs with
      | .error e => .error e
      | .ok (a, rest) =>
          match skipSpace rest with
          | ']' :: rest => .ok ([a], rest)
          | ',' :: rest => (readItems r fuel rest).map fun (as, rest) => (a :: as, rest)
          | _ => .error .malformed

/-- A sequence after the bracket that opens it. -/
def readOpenSequence {α : Type} (r : Reader α) : Reader (List α) := fun cs =>
  match skipSpace cs with
  | ']' :: rest => .ok ([], rest)
  | rest => readItems r rest.length rest

/-- A sequence. -/
def readSequence {α : Type} (r : Reader α) : Reader (List α) := fun cs =>
  match skipSpace cs with
  | '[' :: rest => readOpenSequence r rest
  | rest => .error (mismatch .sequence rest)

/-- The name of a member. -/
def readName : Reader String := fun cs =>
  match skipSpace cs with
  | '"' :: rest => (orMalformed (readChars rest)).map fun (s, rest) => (String.ofList s, rest)
  | _ => .error .malformed

/-- The colon after the name of a member. -/
def readColon (cs : List Char) : Except Fault (List Char) :=
  match skipSpace cs with
  | ':' :: rest => .ok rest
  | _ => .error .malformed

/-- The members of a map up to the brace that closes it, at most `fuel` of them, each put into what
has been read before by `put`, which is given its name and the text after the name. -/
def readMembers {σ : Type} (put : String → σ → Reader σ) : (fuel : Nat) → σ → Reader σ
  | 0, _, _ => .error .malformed
  | fuel + 1, s, cs =>
      match readName cs with
      | .error e => .error e
      | .ok (name, rest) =>
          match put name s rest with
          | .error e => .error e
          | .ok (s, rest) =>
              match skipSpace rest with
              | '\x7d' :: rest => .ok (s, rest)
              | ',' :: rest => readMembers put fuel s rest
              | _ => .error .malformed

/-- A map after the brace that opens it. -/
def readOpenMap {σ : Type} (put : String → σ → Reader σ) (start : σ) : Reader σ := fun cs =>
  match skipSpace cs with
  | '\x7d' :: rest => .ok (start, rest)
  | rest => readMembers put rest.length start rest

/-- A map. -/
def readMap {σ : Type} (put : String → σ → Reader σ) (start : σ) : Reader σ := fun cs =>
  match skipSpace cs with
  | '\x7b' :: rest => readOpenMap put start rest
  | rest => .error (mismatch .map rest)

/-- A map with values of one kind, in the order of their names; of several with one name the last
counts. -/
def readAssociation {α : Type} (r : Reader α) : Reader (List (String × α)) :=
  readMap (fun name members cs =>
    match readColon cs with
    | .error e => .error e
    | .ok rest => (r rest).map fun (a, rest) => (putMember name a members, rest)) []

/-! ### Records -/

/-- A member that a record asks for: its name, whether it is already there, the reader that puts it
into what has been read, and what stands for it where it is missing, if it may be missing. -/
structure Member (σ : Type) where
  name : String
  isSet : σ → Bool
  read : σ → Reader σ
  fallback : Option (σ → σ)

/-- The members that were not read, filled in. -/
def fillMembers {σ : Type} : List (Member σ) → σ → Except Fault σ
  | [], s => .ok s
  | m :: ms, s =>
      if m.isSet s then fillMembers ms s
      else
        match m.fallback with
        | some f => fillMembers ms (f s)
        | none => .error (.missingField m.name)

/-- A member of a record, by its name. -/
def putRecordMember {σ : Type} (members : List (Member σ)) (name : String) (s : σ) : Reader σ :=
  fun cs =>
  match members.find? fun m => m.name == name with
  | some m =>
      if m.isSet s then .error (.duplicateField name)
      else
        match readColon cs with
        | .error e => .error e
        | .ok rest => m.read s rest
  | none =>
      match readColon cs with
      | .error e => .error e
      | .ok rest => (orMalformed (skip rest)).map fun rest => (s, rest)

/-- The values of members in a row, up to the bracket that closes it; `count` values have been read
before. -/
def readRow {σ : Type} (record : String) (total : Nat) :
    (count : Nat) → List (Member σ) → σ → Reader σ
  | _, [], s, cs =>
      match skipSpace cs with
      | ']' :: rest => .ok (s, rest)
      | _ => .error .malformed
  | count, m :: ms, s, cs =>
      match skipSpace cs with
      | ']' :: rest =>
          match m.fallback with
          | some f => readRow record total (count + 1) ms (f s) (']' :: rest)
          | none => .error (.invalidLength count record total)
      | rest =>
          let start : Except Fault (List Char) :=
            if count = 0 then .ok rest
            else
              match rest with
              | ',' :: rest =>
                  if (skipSpace rest).head? = some ']' then .error .malformed else .ok rest
              | _ => .error .malformed
          match start with
          | .error e => .error e
          | .ok rest =>
              match m.read s rest with
              | .error e => .error e
              | .ok (s, rest) => readRow record total (count + 1) ms s rest

/-- A record of a given name. -/
def readRecord {σ : Type} (record : String) (members : List (Member σ)) (start : σ) : Reader σ :=
  fun cs =>
  match skipSpace cs with
  | '[' :: rest => readRow record members.length 0 members start rest
  | '\x7b' :: rest =>
      match readOpenMap (putRecordMember members) start rest with
      | .error e => .error e
      | .ok (s, rest) => (fillMembers members s).map fun s => (s, rest)
  | rest => .error (mismatch (.record record) rest)

/-! ### Values -/

/-- The greatest number of brackets and braces that may be open at a time. -/
def maxDepth : Nat := 127

/-- A value in which at most `depth` brackets and braces are open at a time. -/
def readValue : (depth : Nat) → Reader Value
  | depth, cs =>
      match skipSpace cs with
      | 'n' :: rest => (orMalformed (dropStart? "ull".toList rest)).map fun rest => (.null, rest)
      | 't' :: rest =>
          (orMalformed (dropStart? "rue".toList rest)).map fun rest => (.boolean true, rest)
      | 'f' :: rest =>
          (orMalformed (dropStart? "alse".toList rest)).map fun rest => (.boolean false, rest)
      | '"' :: rest =>
          (orMalformed (readChars rest)).map fun (s, rest) => (.string (String.ofList s), rest)
      | '[' :: rest =>
          match depth with
          | 0 => .error .malformed
          | depth + 1 =>
              (readOpenSequence (readValue depth) rest).map fun (as, rest) => (.array as, rest)
      | '\x7b' :: rest =>
          match depth with
          | 0 => .error .malformed
          | depth + 1 =>
              (readOpenMap (fun name members cs =>
                match readColon cs with
                | .error e => .error e
                | .ok rest =>
                    (readValue depth rest).map fun (a, rest) => (putMember name a members, rest))
                [] rest).map fun (ms, rest) => (.object ms, rest)
      | rest => (orMalformed (readNumber rest)).map fun (n, rest) => (.number n, rest)

/-! ### Whole texts -/

/-- The value that a whole text denotes. -/
def readText {α : Type} (r : Reader α) (text : String) : Except Fault α :=
  match r text.toList with
  | .error e => .error e
  | .ok (a, rest) => if (skipSpace rest).isEmpty then .ok a else .error .malformed

end PageModel.Json
