import FillInStory.Proofs.AbsolutePath
import FillInStory.Proofs.Configuration
import FillInStory.Proofs.DataDirectories

/-! # Which file a configuration is read from

The configuration is kept in the config directory, whose path is an absolute one already when the file in it
is looked for. All the same the path of the file is made absolute once more before the file is opened, so what
is a dollar sign by now is taken for a variable. Nothing else in the path can change: neither a tilde nor a
dot is left where it would be replaced, and the working directory no longer matters.
-/

namespace FillInStory

namespace Parameters

variable {explain : Text → Text} {mistrust : Mistrust} {s : Surroundings} {fs : FileSystem}
  {directories : DataDirectories} {argument : Option Text} {path : Text}

/-- The settings that a run goes on with if the file of its configuration is the one at a path. -/
def readFrom (explain : Text → Text) (s : Surroundings) (fs : FileSystem) (path : Text) : Except Text Parameters :=
  match fs.readText s.here path with
  | .error _ => .ok standard
  | .ok text =>
    (Config.parse? text).elim (.error (Config.parseError path (explain text))) fun config => .ok ⟨path, config⟩

/-- What is said before a configuration is read. -/
def announcement (path : Text) : Record :=
  ⟨.info, .settings, "Reading application configuration file: " ++ path⟩

/-- A run opens a path for its configuration: in every file system it says so before anything else, and goes
on with what can be read there. -/
structure Opens (explain : Text → Text) (s : Surroundings) (directories : DataDirectories) (path : Text) : Prop where
  announced : ∀ fs, (load explain s fs directories).records.head? = some (announcement path)
  heeded : ∀ fs, (load explain s fs directories).value = readFrom explain s fs path

/-- One path is opened, the absolute path of the file in the config directory. -/
theorem opens_iff : Opens explain s directories path ↔ absolutePath s (fileIn directories) = path := by
  constructor
  · intro opened
    have announced := opened.announced FileSystem.empty
    have same := congrArg Record.message (Option.some.inj announced)
    exact List.append_cancel_left same
  · rintro rfl
    refine ⟨fun fs => rfl, fun fs => ?_⟩
    unfold readFrom
    cases read : fs.readText s.here (absolutePath s (fileIn directories)) with
    | error fault => exact value_load_of_unreadable explain read
    | ok text => exact value_load_of_readable explain read

theorem head?_fileIn (success : (DataDirectories.setUp mistrust s fs argument).2 = .ok directories) :
    (fileIn directories).head? = some '/' := by
  have absolute := DataDirectories.absolute_of_setUp (Prod.ext rfl success) .config
  unfold fileIn
  rw [List.head?_append, absolute, Option.some_or]

/-- The path of the configuration's file is an absolute one already, unless a dollar sign is in it or the root of the
file system is taken for the root directory. -/
theorem absolutePath_fileIn (wellPlaced : s.WellPlaced)
    (success : (DataDirectories.setUp mistrust s fs argument).2 = .ok directories) (below : directories.root ≠ "/")
    (plain : '$' ∉ directories.path .config) : absolutePath s (fileIn directories) = fileIn directories := by
  have absolute := DataDirectories.absolute_of_setUp (Prod.ext rfl success) .root
  rw [DataDirectories.path_root] at absolute
  obtain ⟨rfl, -⟩ := DataDirectories.setUp_eq_ok_iff.mp (Prod.ext rfl success)
  unfold DataDirectories.resolveRoot at absolute below plain ⊢
  set written := (s.environment.get? DataDirectories.rootVariable).getD (argument.getD DataDirectories.standardRoot)
  have plainRoot : '$' ∉ absolutePath s written := fun member => plain (List.mem_append_left _ member)
  rcases canonicalPath_absolutePath wellPlaced written with ⟨location, canonical⟩ | ⟨kept, removed | unset | relative⟩
  · have inside : location ≠ [] := fun top => below (canonical.eq_slash top)
    have config := canonical.append inside (n := "config") ⟨by decide, by decide, by decide, by decide⟩
    have file := config.append (by simp) (n := "story.toml") ⟨by decide, by decide, by decide, by decide⟩
    exact file.absolutePath_eq (fun member => (List.mem_append.mp member).elim plain (by decide)) s
  · exact absolutePath_of_removed removed _
  · -- a path that names an unset variable has a dollar sign
    rw [kept] at plainRoot
    unfold Expansion.expand? at unset
    rw [Expansion.variablesIn_of_notMem _ plainRoot] at unset
    cases unset
  · exact absurd (kept ▸ absolute) relative

/-- A run opens the file in the config directory exactly if the variables that the path of this file still
names leave it where it is, as they do when they cannot be replaced or nothing is. There are none if the path
of the config directory is without a dollar sign, and then only the root of the file system as the root directory
leads elsewhere, to a path that is spelled with one slash less. -/
theorem opens_fileIn_iff (explain : Text → Text) (wellPlaced : s.WellPlaced)
    (success : (DataDirectories.setUp mistrust s fs argument).2 = .ok directories) :
    (Opens explain s directories (fileIn directories) ↔
      s.workingDirectory = none ∨ ∀ expanded, Expansion.variablesIn s.environment (fileIn directories) = some expanded →
        (Location.go [] (Location.namesOf expanded)).path? = some (fileIn directories)) ∧
      (directories.root ≠ "/" → '$' ∉ directories.path .config →
        Opens explain s directories (fileIn directories)) := by
  refine ⟨?_, fun below plain => opens_iff.mpr (absolutePath_fileIn wellPlaced success below plain)⟩
  rw [opens_iff]
  cases placed : s.workingDirectory with
  | none => exact iff_of_true (absolutePath_of_removed placed _) (Or.inl rfl)
  | some here =>
    have absolute := head?_fileIn success
    cases replaced : Expansion.variablesIn s.environment (fileIn directories) with
    | none =>
      have unset := (Expansion.expand?_of_absolute s absolute).1.trans replaced
      exact iff_of_true (absolutePath_of_unset unset) (Or.inr nofun)
    | some expanded =>
      have result := absolutePath_of_absolute placed absolute replaced
      simp [result]

theorem resolveRoot_bare : DataDirectories.resolveRoot bare (some "/r") = "/r" := by
  have canonical : Location.CanonicalPath [Text.utf8 "r"] "/r" :=
    ⟨List.forall_mem_singleton.mpr ⟨by decide, by decide, by decide, by decide⟩, by decide +kernel⟩
  exact canonical.absolutePath_eq (by decide) bare

/-- The configuration of a root directory without a dollar sign is read from its config directory. -/
theorem opens_fileIn_iff_bare :
    bare.WellPlaced ∧ (DataDirectories.setUp FileSystem.mistrust bare FileSystem.empty (some "/r")).2 = .ok ⟨"/r"⟩ ∧
      Opens Config.vague bare ⟨"/r"⟩ "/r/config/story.toml" := by
  have wellPlaced : bare.WellPlaced := fun here placed => by
    obtain rfl : [] = here := Option.some.inj placed
    exact nofun
  have created := DataDirectories.setUp_of_prepareAll FileSystem.empty rfl rfl resolveRoot_bare (by decide +kernel)
  have success := congrArg Prod.snd created
  exact ⟨wellPlaced, success, (opens_fileIn_iff Config.vague wellPlaced success).2 (by decide) (by decide)⟩

/-- A place where the root directory is named with two dollar signs, which stand for one, before the name of a
variable that is set. -/
def dollars : Surroundings :=
  ⟨Dictionary.ofList [(DataDirectories.rootVariable, "/$$x"), ("x", "y")], some [], "/"⟩

/-- The data directories are set up in a root directory with a dollar sign in its name, and the configuration
is looked for in another directory, where a variable with the rest of the name leads. -/
theorem opens_elsewhere_dollars :
    (DataDirectories.setUp FileSystem.mistrust dollars FileSystem.empty none).2 = .ok ⟨"/$x"⟩ ∧
      fileIn ⟨"/$x"⟩ = "/$x/config/story.toml" ∧ Opens Config.vague dollars ⟨"/$x"⟩ "/y/config/story.toml" ∧
        ¬ Opens Config.vague dollars ⟨"/$x"⟩ (fileIn ⟨"/$x"⟩) := by
  have first : Expansion.variablesIn dollars.environment "/$$x" = some "/$x" := by
    change Expansion.variablesIn dollars.environment ['/', '$', '$', 'x'] = _
    simp only [Expansion.variablesIn, Expansion.reference]
    decide +kernel
  have second : Expansion.variablesIn dollars.environment (fileIn ⟨"/$x"⟩) = some "/y/config/story.toml" := by
    change Expansion.variablesIn dollars.environment ('/' :: '$' :: 'x' :: '/' :: _) = _
    simp only [Expansion.variablesIn, Expansion.reference]
    decide +kernel
  have named : DataDirectories.resolveRoot dollars none = "/$x" :=
    Option.some.inj (absolutePath_of_absolute rfl rfl first).symm
  have elsewhere : absolutePath dollars (fileIn ⟨"/$x"⟩) = "/y/config/story.toml" :=
    Option.some.inj (absolutePath_of_absolute rfl rfl second).symm
  have created := DataDirectories.setUp_of_prepareAll FileSystem.empty rfl rfl named (by decide +kernel)
  refine ⟨congrArg Prod.snd created, rfl, opens_iff.mpr elsewhere, fun stays => ?_⟩
  exact absurd (elsewhere.symm.trans (opens_iff.mp stays)) (by decide)

end Parameters

end FillInStory
