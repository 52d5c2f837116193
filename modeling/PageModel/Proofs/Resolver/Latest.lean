import PageModel.Proofs.Extractor.Compiling
import PageModel.Resolver

/-!
# Latest versions

A reference that asks for the latest version of a model leads to the version that the registry has for
the name, and so to the same file and the same model as a reference with that version in it
(`Resolver.resolve_latest`, `Resolver.resolve_pinned`). A registry may hold an empty version. No
reference can be written with it, yet the latest version is looked for under it all the same, so that
the two forms of a reference agree if and only if the version is not empty
(`Resolver.resolve_latest_eq_pinned_iff`).
-/

namespace PageModel

/-! ### References in two parts -/

theorem splitReference_append {name version : List Char} (h : '@' ∉ name) :
  splitReference (name ++ '@' :: version) = some (name, version)
  := by
  have hrun : ∀ c ∈ name, decide (c ≠ '@') = true := by
    rintro c hc
    apply decide_eq_true
    rintro rfl
    apply h hc
  rw [splitReference, List.dropWhile_append_of_pos hrun, List.takeWhile_append_of_pos hrun]
  simp

theorem toList_reference (name version : String) :
  (name ++ "@" ++ version).toList = name.toList ++ '@' :: version.toList
  := by
  rw [String.toList_append, String.toList_append, List.append_assoc]
  rfl

theorem isEmpty_toList (s : String) :
  s.toList.isEmpty = decide (s = "")
  := by
  rw [Bool.eq_iff_iff, List.isEmpty_iff, decide_eq_true_eq]
  apply String.toList_eq_nil_iff

namespace Resolver

variable {m : Type → Type} [Monad m] [LawfulMonad m] {r : Resolver m} {name version : String}

/-- A reference that is no file is looked up by its two parts, neither of which may be empty. -/
theorem findFile_reference (hname : name ≠ "") (hat : '@' ∉ name.toList)
    (hfile : r.files.isFile (name ++ "@" ++ version) = pure false) :
  r.findFile (name ++ "@" ++ version) =
    if version = "" then
      pure (.error (.schema (.malformedReference (name ++ "@" ++ version))))
    else r.findVersionFile name version
  := by
  rw [findFile, hfile, pure_bind, if_neg Bool.false_ne_true, toList_reference]
  simp only [splitReference_append hat, isEmpty_toList, hname, String.ofList_toList,
    decide_false, Bool.false_or, decide_eq_true_eq]

/-! ### Versions -/

/-- The relation of a resolver with names and the versions that its registry has for them. -/
def Registers (r : Resolver m) (name version : String) : Prop :=
  ∃ versions, r.loadRegistry = pure (.ok versions) ∧ Json.member? name versions = some version

/-- The latest version is the one that is registered. -/
theorem Registers.findVersion_latest (h : r.Registers name version) :
  r.findVersion name "latest" = pure (.ok version)
  := by
  obtain ⟨versions, hload, hmember⟩ := h
  rw [findVersion, if_pos rfl, hload, pure_bind]
  simp only [hmember]

/-- A version that is registered stands for itself, also if it is called the latest. -/
theorem Registers.findVersion_self (h : r.Registers name version) :
  r.findVersion name version = pure (.ok version)
  := by
  by_cases hlatest : version = "latest"
  · subst hlatest
    apply h.findVersion_latest
  · rw [findVersion, if_neg hlatest]

/-- The model in the file of a version, with its name and version as a name. -/
def loadVersion (r : Resolver m) (name version : String) : m (Except Error ResolvedModel) := do
  let path := r.versionPath name version
  if ← r.files.isFile path then
    return (← r.loadModel path).map fun spec => ⟨path, name ++ "@" ++ version, spec⟩
  else
    return .error (.schema (.modelFileNotFound path))

/-- A reference that stands for a version leads to the model in the file of that version. -/
theorem resolve_of_findVersion {reference asked : String}
    (hfile : r.findFile reference = r.findVersionFile name asked)
    (hversion : r.findVersion name asked = pure (.ok version)) :
  r.resolve reference = r.loadVersion name version
  := by
  rw [resolve, hfile, findVersionFile, hversion, pure_bind, loadVersion]
  simp only [bind_assoc]
  apply bind_congr
  rintro (_ | _)
  · simp only [Bool.false_eq_true, if_false, pure_bind]
  · simp only [if_true, pure_bind]
    apply bind_congr
    rintro (_ | _) <;> rfl

/-- A reference with a registered version leads to that version, unless it is empty. -/
theorem resolve_pinned (hname : name ≠ "") (hat : '@' ∉ name.toList)
    (h : r.Registers name version)
    (hfile : r.files.isFile (name ++ "@" ++ version) = pure false) :
  r.resolve (name ++ "@" ++ version) =
    if version = "" then
      pure (.error (.schema (.malformedReference (name ++ "@" ++ version))))
    else r.loadVersion name version
  := by
  have hfind := findFile_reference hname hat hfile
  split
  · next hempty =>
    rw [if_pos hempty] at hfind
    rw [resolve, hfind, pure_bind]
  · next hversion =>
    rw [if_neg hversion] at hfind
    apply resolve_of_findVersion hfind h.findVersion_self

/-- A reference that asks for the latest version leads to the one that is registered. -/
theorem resolve_latest (hname : name ≠ "") (hat : '@' ∉ name.toList)
    (h : r.Registers name version)
    (hfile : r.files.isFile (name ++ "@latest") = pure false) :
  r.resolve (name ++ "@latest") = r.loadVersion name version
  := by
  have hreference : name ++ "@latest" = name ++ "@" ++ "latest" := by
    rw [String.append_assoc]
    rfl
  rw [hreference] at hfile ⊢
  apply resolve_of_findVersion _ h.findVersion_latest
  rw [findFile_reference hname hat hfile, if_neg (by decide)]

end Resolver

/-! ### Both forms of a reference -/

namespace Resolver

variable {r : Resolver Id} {name version : String}

/-- A model that cannot be loaded from a file is not refused for how a reference is written. -/
theorem loadModel_ne_malformed (r : Resolver Id) (path reference : String) :
  (r.loadModel path).run ≠ .error (.schema (.malformedReference reference))
  := by
  rcases hread : (r.files.readText path).run with fault | text
  · have hpure : r.files.readText path = pure (.error fault) := hread
    rw [loadModel, hpure, pure_bind]
    rintro ⟨⟩
  · have hpure : r.files.readText path = pure (.ok text) := hread
    rw [loadModel, hpure, pure_bind]
    cases hparse : ModelSpec.parse text <;> simp [hparse]

/-- Whether a version can be loaded depends on the file of the version. -/
theorem loadVersion_eq (r : Resolver Id) (name version : String) :
  r.loadVersion name version =
    if (r.files.isFile (r.versionPath name version)).run then
      (r.loadModel (r.versionPath name version)).run.map fun spec =>
        ⟨r.versionPath name version, name ++ "@" ++ version, spec⟩
    else .error (.schema (.modelFileNotFound (r.versionPath name version)))
  := rfl

/-- What is loaded for a version is in its file and is named after it. -/
theorem parts_of_loadVersion {model : ResolvedModel} (h : r.loadVersion name version = .ok model) :
  model.path = r.versionPath name version ∧ model.name = name ++ "@" ++ version
  := by
  rw [loadVersion_eq] at h
  split at h
  · obtain ⟨spec, -, rfl⟩ := exists_of_map_eq_ok h
    exact ⟨rfl, rfl⟩
  · cases h

theorem loadVersion_ne_malformed (r : Resolver Id) (name version reference : String) :
  r.loadVersion name version ≠ .error (.schema (.malformedReference reference))
  := by
  rw [loadVersion_eq]
  split
  · have hload := loadModel_ne_malformed r (r.versionPath name version) reference
    cases h : (r.loadModel (r.versionPath name version)).run with
    | error e =>
        rw [h] at hload
        rintro ⟨⟩
        apply hload rfl
    | ok spec => rintro ⟨⟩
  · rintro ⟨⟩

/-- Where neither form of a reference is the path of a file, the one that asks for the latest version
leads to the file of the registered version, under the name and that version, and the two forms have
the same result if and only if that version is not empty. With an empty one the form that spells it out
is refused for how it is written, and the other is not. -/
theorem resolve_latest_eq_pinned_iff (r : Resolver Id) {name version : String} (hname : name ≠ "")
    (hat : '@' ∉ name.toList) (h : r.Registers name version)
    (hlatest : r.files.isFile (name ++ "@latest") = pure false)
    (hpinned : r.files.isFile (name ++ "@" ++ version) = pure false) :
  (r.resolve (name ++ "@latest") = r.resolve (name ++ "@" ++ version) ↔ version ≠ "") ∧
    (∀ model, r.resolve (name ++ "@latest") = pure (.ok model) →
      model.path = r.versionPath name version ∧ model.name = name ++ "@" ++ version) ∧
    (version = "" →
      r.resolve (name ++ "@" ++ version)
          = pure (.error (.schema (.malformedReference (name ++ "@" ++ version)))) ∧
        ∀ reference, r.resolve (name ++ "@latest")
          ≠ pure (.error (.schema (.malformedReference reference))))
  := by
  rw [resolve_latest hname hat h hlatest, resolve_pinned hname hat h hpinned]
  refine ⟨?_, fun model => parts_of_loadVersion, ?_⟩
  · split
    · next hempty =>
      apply iff_of_false (loadVersion_ne_malformed r name version _)
      apply not_not_intro hempty
    · next hversion => apply iff_of_true rfl hversion
  · intro hempty
    rw [if_pos hempty]
    use rfl
    apply loadVersion_ne_malformed

/-- A directory of models with a registry of one version of one model, and the model. -/
def registering (version : String) : Resolver Id where
  files := (Files.Tree.mk [
    (["models", "registry.json"], ("\x7b\"blog\":\"" ++ version ++ "\"\x7d").toUTF8),
    (["models", "blog", version ++ ".json"],
      "\x7b\"name\":\"blog\",\"fields\":[]\x7d".toUTF8)]).access
  modelsDir := "models"

/-- The version may hold the sign that divides references. -/
theorem registering_resolve_latest :
  (registering "2@0").resolve "blog@latest" = (registering "2@0").resolve "blog@2@0" ∧
    ((registering "2@0").resolve "blog@latest").run.map (fun m => (m.path, m.name))
      = .ok ("models/blog/2@0.json", "blog@2@0")
  := by
  have hload : (registering "2@0").loadRegistry.run = .ok [("blog", "2@0")] := by decide +kernel
  have hlatest : ((registering "2@0").files.isFile "blog@latest").run = false := by decide +kernel
  have hpinned : ((registering "2@0").files.isFile "blog@2@0").run = false := by decide +kernel
  constructor
  · apply (@resolve_latest_eq_pinned_iff (registering "2@0") "blog" "2@0" (by decide) (by decide)
      ⟨_, hload, by decide⟩ hlatest hpinned).1.2
    decide
  · decide +kernel

/-- An empty version is found as the latest one, and refused where it is spelled out. -/
theorem registering_resolve_empty :
  (registering "").Registers "blog" "" ∧
    ((registering "").files.isFile "blog@latest").run = false ∧
    ((registering "").files.isFile "blog@").run = false ∧
    ((registering "").resolve "blog@latest").run.map (fun m => (m.path, m.name))
      = .ok ("models/blog/.json", "blog@") ∧
    ((registering "").resolve "blog@").run
      = .error (.schema (.malformedReference "blog@"))
  := by
  have hload : (registering "").loadRegistry.run = .ok [("blog", "")] := by decide +kernel
  refine ⟨⟨_, hload, by decide⟩, ?_⟩
  decide +kernel

end Resolver

end PageModel
