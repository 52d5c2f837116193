import PageModel.Files.Fault
import PageModel.Files.Path

/-!
# Files

Files in directories, and how a program looks at them: it asks whether a path leads to a file, and
for the text of the file.
-/

namespace PageModel.Files

/-- How a program looks at files. -/
structure Access (m : Type → Type) where
  isFile : String → m Bool
  readText : String → m (Except Fault String)

/-- Files below the current directory: for each its place, given by the names that lead to it, and
its contents. A later entry for a place overrides an earlier one. -/
structure Tree where
  entries : List (List String × ByteArray)

/-- What stands in a place. -/
inductive Entry where
  | file (contents : ByteArray)
  | directory

/-- Where a path leads on its way: to a place below the current directory, or outside of it, where
only the directories above it are known. -/
inductive Place where
  | inside (names : List String)
  | outside (above : Nat)
deriving Repr, DecidableEq

namespace Tree

/-- What stands in a place below the current directory. -/
def entry? (t : Tree) (names : List String) : Option Entry :=
  match t.entries.reverse.find? fun e => e.1 == names with
  | some (_, contents) => some (.file contents)
  | none =>
      if names.isEmpty || t.entries.any fun e => names.isPrefixOf e.1 then some .directory
      else none

/-- Whether there is a directory in a place. -/
def isDirectory (t : Tree) : Place → Bool
  | .inside names =>
      match t.entry? names with
      | some .directory => true
      | _ => false
  | .outside _ => true

/-- The place that a part of a path leads to from a directory. -/
def step (t : Tree) (place : Place) (part : String) : Except Fault Place :=
  if !t.isDirectory place then .error .notDirectory
  else if part = ".." then
    match place with
    | .inside [] => .ok (.outside 1)
    | .inside names => .ok (.inside names.dropLast)
    | .outside above => .ok (.outside (above + 1))
  else if part = "" ∨ part = "." then .ok place
  else if 255 < part.utf8ByteSize then .error .nameTooLong
  else
    match place with
    | .outside _ => .error .notFound
    | .inside names =>
        match t.entry? (names ++ [part]) with
        | some _ => .ok (.inside (names ++ [part]))
        | none => .error .notFound

/-- The place that the parts of a path lead to. -/
def walk (t : Tree) (place : Place) : List String → Except Fault Place
  | [] => .ok place
  | part :: parts =>
      match t.step place part with
      | .error e => .error e
      | .ok place => t.walk place parts

/-- What a path leads to. -/
def find (t : Tree) (path : String) : Except Fault Entry :=
  if path.toList.contains '\x00' then .error .zeroInName
  else if path.isEmpty then .error .notFound
  else if 4096 ≤ path.utf8ByteSize then .error .nameTooLong
  else
    let start := if isAbsolute path then Place.outside 0 else .inside []
    match t.walk start ((splitSlashes path.toList).map String.ofList) with
    | .error e => .error e
    | .ok (.outside _) => .ok .directory
    | .ok (.inside names) =>
        match t.entry? names with
        | some e => .ok e
        | none => .error .notFound

/-- Whether a path leads to a file. -/
def isFile (t : Tree) (path : String) : Bool :=
  match t.find path with
  | .ok (.file _) => true
  | _ => false

/-- The text of the file that a path leads to. -/
def readText (t : Tree) (path : String) : Except Fault String :=
  match t.find path with
  | .error e => .error e
  | .ok .directory => .error .isDirectory
  | .ok (.file contents) =>
      match String.fromUTF8? contents with
      | some s => .ok s
      | none => .error .notUtf8

/-- A tree as a program looks at it. -/
def access (t : Tree) : Access Id where
  isFile := t.isFile
  readText := t.readText

end Tree

end PageModel.Files
