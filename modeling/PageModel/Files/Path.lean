/-!
# Paths

A path is a text whose parts stand between slashes. Empty parts and single dots name nothing of
their own.
-/

namespace PageModel.Files

/-- The parts of a path between slashes, empty ones among them. -/
def splitSlashes : List Char → List (List Char)
  | [] => [[]]
  | c :: cs =>
      if c = '/' then [] :: splitSlashes cs
      else
        match splitSlashes cs with
        | [] => [[c]]
        | part :: parts => (c :: part) :: parts

/-- The parts of a path that name something: a file, a directory, or the directory above. -/
def components (path : String) : List String :=
  ((splitSlashes path.toList).filter fun part => !part.isEmpty && part != ['.']).map String.ofList

/-- Whether a path starts at the root. -/
def isAbsolute (path : String) : Bool :=
  path.toList.head? = some '/'

/-- A path continued by another, which replaces it if it starts at the root. -/
def join (path next : String) : String :=
  if isAbsolute next then next
  else if path.isEmpty || path.toList.getLast? = some '/' then path ++ next
  else path ++ "/" ++ next

/-- The part of a file's name before its last dot, unless that is the first of the name's
characters. -/
def stem (name : List Char) : List Char :=
  let after := name.reverse.takeWhile (· ≠ '.')
  let before := (name.reverse.drop (after.length + 1)).reverse
  if before.isEmpty then name else before

/-- The name of the file that a path leads to, without its last extension, unless the path ends in
no name. -/
def fileStem? (path : String) : Option String :=
  match (components path).getLast? with
  | none => none
  | some ".." => none
  | some name => some (String.ofList (stem name.toList))

/-! ### Examples -/

example : fileStem? "models/answer.json" = some "answer" := by decide +kernel

example : fileStem? ".json" = some ".json" := by decide +kernel

example : fileStem? "a/.." = none := by decide +kernel

end PageModel.Files
