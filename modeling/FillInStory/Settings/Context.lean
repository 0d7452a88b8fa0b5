import FillInStory.Settings.Arguments
import FillInStory.Settings.Config
import FillInStory.Settings.DataDirectories

/-! # The settings of a run

A run combines its arguments, its data directories, its environment and the configuration in the config
directory. A configuration that is missing is the standard one; one that says something wrong ends the run,
and so does a port of the environment that is none.
-/

namespace FillInStory

/-- A configuration and the path that it was read from, which is empty if it was not read. -/
structure Parameters where
  file : Text
  config : Config
  deriving DecidableEq, Repr

namespace Parameters

def standard : Parameters := ⟨"", Config.standard⟩

/-- Where the configuration is kept. -/
def fileIn (directories : DataDirectories) : Text := directories.path .config ++ "/story.toml"

/-- Reads the configuration, which is the standard one if there is no file that can be read as text. -/
def load (explain : Text → Text) (s : Surroundings) (fs : FileSystem) (directories : DataDirectories) :
    Logged (Except Text Parameters) := do
  let path := absolutePath s (fileIn directories)
  Logged.write .info .settings ("Reading application configuration file: " ++ path)
  match fs.readText s.here path with
  | .error _ => do
    Logged.write .info .settings
      ("Unable to read configuration at " ++ fileIn directories ++ ". Using default values.")
    pure (.ok standard)
  | .ok contents => do
    let config ← Config.read explain contents path
    pure (config.map (Parameters.mk path))

def outline (p : Parameters) : Outline :=
  .record "Parms" [("config_file", .text p.file), ("config", p.config.outline)]

end Parameters

/-- Why the settings of a run cannot be had. -/
inductive ContextError where
  | configuration (message : Text)
  | port (e : PortError)
  deriving DecidableEq, Repr

namespace ContextError

def message : ContextError → Text
  | .configuration m => "FAILED to read configuration file.: " ++ m
  | .port e => "FAILED to determine the http port.: " ++ e.message

end ContextError

structure Context where
  parameters : Parameters
  port : Nat
  storiesDirectory : Text
  arguments : Arguments
  directories : DataDirectories
  deriving DecidableEq, Repr

namespace Context

def portVariable : Text := "PORT"

/-- Establishes the settings: the configuration first, then the port, then the stories' directory. -/
def establish (explain : Text → Text) (s : Surroundings) (fs : FileSystem) (arguments : Arguments)
    (directories : DataDirectories) : Logged (Except ContextError Context) := do
  match ← Parameters.load explain s fs directories with
  | .error message => pure (.error (.configuration message))
  | .ok parameters =>
    match resolvePort (s.environment.get? portVariable) arguments.port parameters.config.httpPort with
    | .error e => pure (.error (.port e))
    | .ok port =>
      let stories := resolveStoriesDirectory s arguments.storiesDirectory
        parameters.config.storiesDirectory (directories.path .stories)
      pure (.ok ⟨parameters, port, stories, arguments, directories⟩)

def outline (c : Context) : Outline :=
  .record "RuntimeCtx" [("parms", c.parameters.outline), ("http_port", .number c.port),
    ("stories_dir", .text c.storiesDirectory), ("story_args", c.arguments.outline),
    ("story_dirs", c.directories.outline)]

end Context

end FillInStory
