import PageModel.Files.Tree
import PageModel.Model.Text

/-!
# Model references

A reference names a model: it is the path of a file, or a name and a version. Versions are kept in a
directory of models, which may have a registry of the latest version of each name.
-/

namespace PageModel

/-- A model with the name under which it was found, and the path of its file. -/
structure ResolvedModel where
  path : String
  name : String
  spec : ModelSpec
deriving Repr, DecidableEq

/-- The name of a model that is given by the path of its file. -/
def modelName (path : String) : String :=
  (Files.fileStem? path).getD "default"

/-- The parts of a text before and after its first `@`. -/
def splitReference (cs : List Char) : Option (List Char × List Char) :=
  match cs.dropWhile (· ≠ '@') with
  | [] => none
  | _ :: version => some (cs.takeWhile (· ≠ '@'), version)

/-- Where models are looked for: the files, and the path of the directory of models. -/
structure Resolver (m : Type → Type) where
  files : Files.Access m
  modelsDir : String

namespace Resolver

variable {m : Type → Type} [Monad m]

/-- The path of the registry. -/
def registryPath (r : Resolver m) : String :=
  Files.join r.modelsDir "registry.json"

/-- The path of a version of a model. -/
def versionPath (r : Resolver m) (name version : String) : String :=
  Files.join (Files.join r.modelsDir name) (version ++ ".json")

/-- The latest versions of models, by name. -/
def loadRegistry (r : Resolver m) : m (Except Error (List (String × String))) := do
  match ← r.files.readText r.registryPath with
  | .error fault => return .error (.schema (.unreadableRegistry r.registryPath fault))
  | .ok text =>
      match Json.readText (Json.readAssociation Json.readString) text with
      | .error fault => return .error (.schema (.invalidRegistry fault))
      | .ok versions => return .ok versions

/-- The version that a text stands for: the latest one, if it asks for that, or itself. -/
def findVersion (r : Resolver m) (name version : String) : m (Except Error String) := do
  if version = "latest" then
    match ← r.loadRegistry with
    | .error e => return .error e
    | .ok versions =>
        match Json.member? name versions with
        | some version => return .ok version
        | none => return .error (.schema (.noLatestVersion name))
  else
    return .ok version

/-- The path of the file of a version of a model, and the name of the model. -/
def findVersionFile (r : Resolver m) (name version : String) :
    m (Except Error (String × String)) := do
  match ← r.findVersion name version with
  | .error e => return .error e
  | .ok version =>
      let path := r.versionPath name version
      if ← r.files.isFile path then return .ok (path, name ++ "@" ++ version)
      else return .error (.schema (.modelFileNotFound path))

/-- The path of the file that a reference leads to, and the name of the model. -/
def findFile (r : Resolver m) (reference : String) : m (Except Error (String × String)) := do
  if ← r.files.isFile reference then return .ok (reference, modelName reference)
  else
    match splitReference reference.toList with
    | none => return .error (.schema (.modelNotFound reference))
    | some (name, version) =>
        if name.isEmpty || version.isEmpty then
          return .error (.schema (.malformedReference reference))
        else
          r.findVersionFile (String.ofList name) (String.ofList version)

/-- The model in a file. -/
def loadModel (r : Resolver m) (path : String) : m (Except Error ModelSpec) := do
  match ← r.files.readText path with
  | .error fault => return .error (.schema (.unreadableModelFile path fault))
  | .ok text =>
      match ModelSpec.parse text with
      | .error fault => return .error (.schema (.invalidModelFile path fault))
      | .ok spec => return .ok spec

/-- The model that a reference leads to. -/
def resolve (r : Resolver m) (reference : String) : m (Except Error ResolvedModel) := do
  match ← r.findFile reference with
  | .error e => return .error e
  | .ok (path, name) =>
      match ← r.loadModel path with
      | .error e => return .error e
      | .ok spec => return .ok ⟨path, name, spec⟩

end Resolver

end PageModel
