import PageModel.Command.Run

/-!
# The program

Looks at the files and variables of the system, carries out what the command line asks for, and
writes what comes of it.
-/

namespace PageModel

open Command

/-- The fault of a file that the system could not read. -/
def faultOf : IO.Error → Files.Fault
  | .noFileOrDirectory _ _ _ => .notFound
  | .inappropriateType _ _ _ => .isDirectory
  | e => .other (toString e)

/-- The bytes of a file of the system. -/
def readBytes (path : String) : IO (Except Files.Fault ByteArray) := do
  try
    return .ok (← IO.FS.readBinFile path)
  catch e =>
    return .error (faultOf e)

/-- Whether the system finds something at a path. -/
def leadsSomewhere (path : String) : IO Bool := do
  try
    discard (IO.FS.realPath path)
    return true
  catch _ => return false

/-- The files of the system. A file is found without being read; unlike from a directory, no path goes
on from it. -/
def systemFiles : Files.Access IO where
  isFile path := return (← leadsSomewhere path) && !(← leadsSomewhere (path ++ "/."))
  readText path := do
    match ← readBytes path with
    | .error fault => return .error fault
    | .ok bytes =>
        match String.fromUTF8? bytes with
        | some text => return .ok text
        | none => return .error .notUtf8

/-- The variables of the system that a run may ask for. -/
def systemVariables (names : List String) : IO Variables := do
  names.filterMapM fun name => do
    return (← IO.getEnv name).map fun value => (name, value)

end PageModel

open PageModel Command in
/-- The program. -/
def main (args : List String) : IO UInt32 := do
  let mentioned := match ← systemFiles.readText variablesFile with
    | .ok text => mentionedNames text.toList
    | .error _ => []
  let names := [modelsDirName, Settings.concurrencyName, Settings.timeoutName] ++ mentioned
  let outcome ← run systemFiles (← systemVariables names.eraseDups) offline args
  IO.print outcome.output
  IO.eprint outcome.errors
  return outcome.status.toUInt32
