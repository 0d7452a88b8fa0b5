import FillInStory.Proofs.Utf8
import FillInStory.Proofs.Walk
import FillInStory.Settings.Context

/-! # Which configuration a run goes on with

The contents of a configuration file call for certain settings if they are a text that a configuration
can be read from. A run that reads a file heeds its contents if it goes on with those settings or not at
all. It does so exactly when the contents are a text: a text that makes no configuration ends the run, but
contents that are no text are taken for a missing file, and the standard settings stand in for them.
-/

namespace FillInStory

/-- Reading settings succeeds exactly with those that the text makes. -/
theorem Config.value_read (explain : Text → Text) (t file : Text) :
    (Config.read explain t file).value =
      (Config.parse? t).elim (.error (Config.parseError file (explain t))) .ok := by
  unfold Config.read
  cases Config.parse? t <;> rfl

/-- The same words for every document that makes no settings. -/
def Config.vague : Text → Text := fun _ => "no configuration"

namespace FileSystem

variable {fs : FileSystem} {workingDirectory : Location} {path : Text}

theorem readText_of_read {contents : List UInt8} (stands : fs.read workingDirectory path = .ok contents) :
    fs.readText workingDirectory path = (Text.ofUtf8? contents).elim (.error .notUtf8) .ok := by
  unfold readText
  rw [stands]
  cases read : Text.ofUtf8? contents <;> simp [Except.bind, read]

/-- The empty path leads nowhere. -/
theorem path_ne_nil_of_read {contents : List UInt8} (stands : fs.read workingDirectory path = .ok contents) :
    path ≠ [] := by
  rintro rfl
  cases stands

end FileSystem

namespace Parameters

variable (explain : Text → Text) {s : Surroundings} {fs : FileSystem} {directories : DataDirectories}

/-- The settings that the contents of a file call for, if they are a text that makes settings. -/
def calledFor? (file : Text) (contents : List UInt8) : Option Parameters :=
  ((Text.ofUtf8? contents).bind Config.parse?).map (Parameters.mk file)

/-- Whether what comes of reading a configuration heeds the contents of its file: any settings that a
run goes on with are those that the contents call for. -/
def Heeds (file : Text) (contents : List UInt8) (outcome : Except Text Parameters) : Prop :=
  ∀ settings, outcome = .ok settings → calledFor? file contents = some settings

/-- Without a text to read, the settings are the standard ones. -/
theorem value_load_of_unreadable {fault : Fault}
    (unreadable : fs.readText s.here (absolutePath s (fileIn directories)) = .error fault) :
    (load explain s fs directories).value = .ok standard := by
  simp [load, unreadable]

/-- A text that can be read decides the settings. -/
theorem value_load_of_readable {text : Text}
    (readable : fs.readText s.here (absolutePath s (fileIn directories)) = .ok text) :
    (load explain s fs directories).value =
      (Config.parse? text).elim (.error (Config.parseError (absolutePath s (fileIn directories)) (explain text)))
        fun config => .ok ⟨absolutePath s (fileIn directories), config⟩ := by
  simp only [load, readable, Logged.value_bind, Logged.value_pure, Config.value_read]
  cases Config.parse? text <;> rfl

/-- The standard settings come from no file. -/
theorem calledFor?_ne_standard {file : Text} (named : file ≠ []) (contents : List UInt8) :
    calledFor? file contents ≠ some standard := by
  intro called
  obtain ⟨config, -, same⟩ := Option.map_eq_some_iff.mp called
  exact named (congrArg Parameters.file same)

/-- A run heeds the configuration that stands in its file exactly when the contents are a text, and
exactly when they are not it falls back on the standard settings. -/
theorem load_heeds_iff {contents : List UInt8}
    (stands : fs.read s.here (absolutePath s (fileIn directories)) = .ok contents) :
    (Heeds (absolutePath s (fileIn directories)) contents (load explain s fs directories).value ↔
        ∃ text, Text.utf8 text = contents) ∧
      ((load explain s fs directories).value = .ok standard ↔ ¬ ∃ text, Text.utf8 text = contents) := by
  have named := FileSystem.path_ne_nil_of_read stands
  have read := FileSystem.readText_of_read stands
  cases decoded : Text.ofUtf8? contents with
  | none =>
    rw [decoded] at read
    have fallback := value_load_of_unreadable explain read
    have undecodable := (Text.ofUtf8?_eq_none_iff contents).mp decoded
    refine ⟨iff_of_false (fun heeds => ?_) undecodable, iff_of_true fallback undecodable⟩
    exact calledFor?_ne_standard named contents (heeds _ fallback)
  | some text =>
    rw [decoded] at read
    have outcome := value_load_of_readable explain read
    have decodable : ∃ text, Text.utf8 text = contents :=
      ⟨text, (Text.ofUtf8?_eq_some_iff contents text).mp decoded⟩
    have heeds : Heeds (absolutePath s (fileIn directories)) contents (load explain s fs directories).value := by
      intro settings proceeds
      rw [outcome] at proceeds
      unfold calledFor?
      rw [decoded, Option.bind_some]
      cases parsed : Config.parse? text with
      | none => rw [parsed] at proceeds; cases proceeds
      | some config => rw [parsed] at proceeds; cases proceeds; rfl
    exact ⟨iff_of_true heeds decodable, iff_of_false
      (fun fallback => calledFor?_ne_standard named contents (heeds _ fallback)) (not_not_intro decodable)⟩

/-- A file system in which `/r/config/story.toml` has some contents. -/
def holding (contents : List UInt8) : FileSystem :=
  let config : Location := [Text.utf8 "r", Text.utf8 "config"]
  ((FileSystem.empty.put [Text.utf8 "r"] (.directory 0o700)).put config (.directory 0o700)).put
    (config ++ [Text.utf8 "story.toml"]) (.file contents)

/-- A run in the root directory without an environment. -/
def bare : Surroundings := ⟨∅, some [], "/"⟩

theorem absolutePath_fileIn_bare : absolutePath bare (fileIn ⟨"/r"⟩) = fileIn ⟨"/r"⟩ := by
  have plain : '$' ∉ fileIn ⟨"/r"⟩ := by decide +kernel
  unfold absolutePath Expansion.expand?
  rw [Expansion.variablesIn_of_notMem _ plain]
  decide +kernel

theorem read_holding (contents : List UInt8) :
    (holding contents).read bare.here (absolutePath bare (fileIn ⟨"/r"⟩)) = .ok contents := by
  -- the bits of the root directory do not evaluate to a number where any contents are meant
  have bits : (holding contents).modeAt? [] = some 0o755 := rfl
  have searchable : (holding contents).isSearchableAt [] := by rw [FileSystem.isSearchableAt, bits]; rfl
  have first : (holding contents).enter FileSystem.linkLimit [] (Text.utf8 "r") =
      .ok (FileSystem.linkLimit, [Text.utf8 "r"], []) := by
    unfold FileSystem.enter
    rw [searchable]
    rfl
  have absolute : (fileIn ⟨"/r"⟩).head? = some '/' := by decide +kernel
  have names : Location.namesOf (fileIn ⟨"/r"⟩) =
      [] :: Text.utf8 "r" :: [Text.utf8 "config", Text.utf8 "story.toml"] := by decide +kernel
  have found : (holding contents).lookUp bare.here (fileIn ⟨"/r"⟩) = .ok (.file contents) := by
    refine FileSystem.lookUp_eq_ok_iff.mpr ⟨[Text.utf8 "r", Text.utf8 "config", Text.utf8 "story.toml"], ?_, rfl⟩
    unfold FileSystem.resolve
    rw [if_neg (by decide +kernel), if_neg (by decide +kernel), if_neg (by decide +kernel), names, if_pos absolute,
      FileSystem.follow_cons (Or.inr rfl), FileSystem.enter_nil rfl]
    change FileSystem.follow _ true FileSystem.linkLimit [] (_ :: [Text.utf8 "config", Text.utf8 "story.toml"]) = _
    rw [FileSystem.follow_cons (Or.inr rfl), first]
    rfl
  rw [absolutePath_fileIn_bare, FileSystem.read, found]
  rfl

/-- A port that is too large is heeded: the run ends. -/
theorem load_heeds_iff_tooLarge :
    let contents := Text.utf8 "http_port = 99999"
    (holding contents).read bare.here (absolutePath bare (fileIn ⟨"/r"⟩)) = .ok contents ∧
      Heeds (absolutePath bare (fileIn ⟨"/r"⟩)) contents (load Config.vague bare (holding contents) ⟨"/r"⟩).value ∧
        (load Config.vague bare (holding contents) ⟨"/r"⟩).value ≠ .ok standard := by
  intro contents
  have stands := read_holding contents
  have heeds := load_heeds_iff Config.vague stands
  exact ⟨stands, heeds.1.mpr ⟨_, rfl⟩, fun fallback => heeds.2.mp fallback ⟨_, rfl⟩⟩

/-- A configuration with an accented letter in Latin-1, where it is a single byte. -/
def latin1 : List UInt8 := Text.utf8 "http_port = 9000\ntitle = \"Caf" ++ [0xE9, 0x22]

/-- A configuration in Latin-1 is not heeded: the file is there and can be read, and the run goes on with
the standard settings. -/
theorem load_not_heeds_latin1 :
    (holding latin1).isFile bare.here (fileIn ⟨"/r"⟩) ∧
      (holding latin1).read bare.here (fileIn ⟨"/r"⟩) = .ok latin1 ∧
        (load Config.vague bare (holding latin1) ⟨"/r"⟩).value = .ok standard ∧
          ¬ Heeds (fileIn ⟨"/r"⟩) latin1 (load Config.vague bare (holding latin1) ⟨"/r"⟩).value := by
  have stands := read_holding latin1
  have undecodable : Text.ofUtf8? latin1 = none := by decide +kernel
  have read := FileSystem.readText_of_read stands
  rw [undecodable] at read
  have fallback := value_load_of_unreadable Config.vague read
  have named := FileSystem.path_ne_nil_of_read stands
  rw [absolutePath_fileIn_bare] at stands named
  exact ⟨rfl, stands, fallback, fun heeds => calledFor?_ne_standard named latin1 (heeds _ fallback)⟩

end Parameters

end FillInStory
