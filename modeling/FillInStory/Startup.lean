import FillInStory.Host
import FillInStory.Log.Settings
import FillInStory.Settings.Context

/-! # Starting the server

A run reads its arguments, sets up the data directories and the log, establishes its settings, loads the
stories and then listens. Every step may end it. What a run prints before the log is set up are lines, and
afterwards there are only the records of the log; so a run is its lines, its records, the file system that
it leaves and the way it ends.
-/

namespace FillInStory

/-- Why the server cannot listen. -/
inductive ListenFault where
  | certificate (fault : Fault)
  | portInUse
  | badCertificate
  deriving DecidableEq, Repr

namespace ListenFault

def message : ListenFault → Text
  | .certificate fault => fault.details
  | .portInUse => Fault.systemError 98 "AddrInUse" "Address already in use"
  | .badCertificate => "Custom \x7b kind: Other, error: bad key or certificate \x7d"

end ListenFault

/-- How a run ends, or that it does not. -/
inductive Ending where
  | argumentStop (stop : ArgumentStop)
  | directoryFailure (e : DirectoryError)
  | directoriesOnly
  | logFailure (path : Text)
  | contextFailure (e : ContextError)
  | loadFailure (e : StoryError)
  | listenFailure (fault : ListenFault)
  /-- The server answers requests until it is stopped. -/
  | serving (server : Server) (port : Nat)

namespace Ending

def loadMessage (e : StoryError) : Text := "Unable to load story templates: " ++ e.message

/-- The exit code; a server that answers requests has none yet. -/
def exitCode? : Ending → Option Nat
  | .argumentStop stop => some (if stop.isAnswer then 0 else 1)
  | .directoryFailure _ | .logFailure _ | .contextFailure _ => some 101
  | .directoriesOnly => some 0
  | .loadFailure _ | .listenFailure _ => some 1
  | .serving _ _ => none

/-- What is said of a set-up that makes no sense to go on with. -/
def abortMessage? : Ending → Option Text
  | .directoryFailure e => some e.message
  | .logFailure path => some ("Unable to access the Log4rs configuration file: " ++ path)
  | .contextFailure e => some e.message
  | _ => none

/-- What is said of a server that cannot be started. -/
def errorText : Ending → Text
  | .loadFailure e => "Error: Custom \x7b kind: Other, error: " ++ Text.quoted (loadMessage e) ++ " \x7d\n"
  | .listenFailure fault => "Error: " ++ fault.message ++ "\n"
  | _ => []

/-- What a run that its arguments stopped says about the program. -/
def usageText : Ending → Text
  | .argumentStop .versionDisplayed => "story_server " ++ programVersion ++ "\n"
  | .argumentStop _ => Arguments.usage
  | _ => []

/-- Whether what the run says about the program was asked for. -/
def isAnswer : Ending → Bool
  | .argumentStop stop => stop.isAnswer
  | _ => false

/-- All that a run says on the error output. -/
def complaint (ending : Ending) : Text :=
  match ending.abortMessage? with
  | some message => message ++ ['\n']
  | none => if ending.isAnswer then [] else ending.usageText ++ ending.errorText

end Ending

/-- What a run shows and leaves behind. -/
structure Run where
  lines : List Text
  console : Console
  records : List Record
  files : FileSystem
  ending : Ending

namespace Run

/-- What a run prints, where every record is given the same time. -/
def output (run : Run) (time : Text) : Text :=
  run.lines.flatMap (· ++ ['\n']) ++ run.records.flatMap (run.console time)

end Run

namespace Host

def address (c : Context) : Text :=
  c.parameters.config.httpAddress ++ ":" ++ Text.decimal c.port ++ Route.interfacePath

/-- The record that a run writes when it is about to listen. -/
def listening (c : Context) : Text :=
  "Listening on 0.0.0.0:" ++ Text.decimal c.port ++ " for " ++ address c ++ "."

/-- Why the server cannot listen with some settings, if so. The key and the certificate are read before
the port is taken, and used afterwards. -/
def listenFault? (host : Host) (c : Context) : Option ListenFault :=
  let taken : Option ListenFault := if c.port ∈ host.busyPorts then some .portInUse else none
  if !c.parameters.config.enableTls then taken
  else
    let readPem (name : Text) := host.files.read host.surroundings.here (c.directories.path .certs ++ name)
    match readPem "/key.pem" with
    | .error fault => some (.certificate fault)
    | .ok key =>
      match readPem "/cert.pem" with
      | .error fault => some (.certificate fault)
      | .ok certificate =>
        taken.or (if host.certifies key certificate then none else some .badCertificate)

def listen (host : Host) (c : Context) : Logged Ending := do
  let config := c.parameters.config
  let loaded ← Collection.load host.files host.surroundings.here host.now config.loadPolicy c.storiesDirectory
  match loaded with
  | .error e => do
    Logged.write .error .startUp (Ending.loadMessage e)
    pure (.loadFailure e)
  | .ok stories => do
    Logged.write .info .startUp (listening c)
    match host.listenFault? c with
    | some fault => pure (.listenFailure fault)
    | none => pure (.serving ⟨stories, config.title, address c, host.build⟩ c.port)

def running (build : BuildInfo) : Text :=
  "\n*** Running STORY_SERVER=" ++ programVersion ++ ", BRANCH=" ++ build.branch ++ ", COMMIT="
    ++ build.commit ++ ", DIRTY=" ++ build.dirty ++ ", SRC_TS=" ++ build.sourceTime ++ ", RUSTC="
    ++ build.compiler ++ "."

/-- Goes on from the data directories with a log: establishes the settings, loads and listens. -/
def serve (host : Host) (arguments : Arguments) (directories : DataDirectories) : Logged Ending := do
  match ← Context.establish host.explain host.surroundings host.files arguments directories with
  | .error e => pure (.contextFailure e)
  | .ok c => do
    Logged.write .info .startUp ("story_server input parameters:\n" ++ c.outline.pretty)
    Logged.write .info .startUp (running host.build)
    host.listen c

/-- Sets up the log as the file of its settings says, or on the console if there is no such file. What is then
said about it comes with what the console shows. -/
def initLog (host : Host) (path : Text) : FileSystem × Except Text (Console × Text) :=
  if host.files.isFile host.surroundings.here path then
    let (files, outcome) := host.logSetUp host.files host.surroundings.here path
    (files, outcome.map (·, "Log4rs initialized using: " ++ path))
  else (host.files, .ok (LogSettings.standard.render, "Log4rs initialized to the console, no file at: " ++ path))

def logSettingsFile (directories : DataDirectories) : Text := directories.path .config ++ "/log4rs.yml"

/-- Goes on from the data directories: sets up the log, and serves. -/
def proceed (host : Host) (lines : List Text) (arguments : Arguments) (directories : DataDirectories) : Run :=
  match host.initLog (logSettingsFile directories) with
  | (files, .error reason) =>
    ⟨lines ++ [reason], LogSettings.standard.render, [], files, .logFailure (logSettingsFile directories)⟩
  | (files, .ok (console, notice)) =>
    let logged : Logged Ending := do
      Logged.write .info .settings notice
      ({ host with files := files } : Host).serve arguments directories
    ⟨lines, console, logged.records, files, logged.value⟩

def greeting : Text := "Starting story_server!"

def start (host : Host) (arguments : List Text) : Run :=
  match Arguments.parse arguments with
  | .error stop => ⟨[greeting], LogSettings.standard.render, [], host.files, .argumentStop stop⟩
  | .ok said =>
    let lines := [greeting, said.outline.compact]
    match DataDirectories.setUp host.mistrust host.surroundings host.files said.rootDirectory with
    | (files, .error e) => ⟨lines, LogSettings.standard.render, [], files, .directoryFailure e⟩
    | (files, .ok directories) =>
      if said.createOnly then
        let created : Text := "Data directories created under " ++ directories.path .root ++ "."
        ⟨lines ++ [created], LogSettings.standard.render, [], files, .directoriesOnly⟩
      else ({ host with files := files } : Host).proceed lines said directories

end Host

end FillInStory
