import FillInStory.Files.Creation
import FillInStory.Files.Expansion
import FillInStory.Settings.Outline

/-! # The data directories

The program keeps its data in a root directory with four directories inside. Each must be a directory that
is private to its owner; one that is missing is created. They are taken in order, and the first that cannot
be had ends the set-up.
-/

namespace FillInStory

/-- What a data directory is for. -/
inductive DirectoryRole where
  | root
  | config
  | logs
  | certs
  | stories
  deriving DecidableEq, Repr

namespace DirectoryRole

/-- All roles in the order in which their directories are set up. -/
def all : List DirectoryRole := [.root, .config, .logs, .certs, .stories]

/-- What messages call a role's directory. -/
def label : DirectoryRole → Text
  | .root => "root directory"
  | .config => "config directory"
  | .logs => "logs directory"
  | .certs => "certs directory"
  | .stories => "stories directory"

def subpath : DirectoryRole → Text
  | .root => ""
  | .config => "/config"
  | .logs => "/logs"
  | .certs => "/certs"
  | .stories => "/stories"

end DirectoryRole

structure DataDirectories where
  root : Text
  deriving DecidableEq, Repr

namespace DataDirectories

def path (directories : DataDirectories) (role : DirectoryRole) : Text :=
  directories.root ++ role.subpath

def outline (directories : DataDirectories) : Outline :=
  .record "StoryDirs" [("root_dir", .text (directories.path .root)),
    ("config_dir", .text (directories.path .config)), ("logs_dir", .text (directories.path .logs)),
    ("certs_dir", .text (directories.path .certs)), ("stories_dir", .text (directories.path .stories))]

def rootVariable : Text := "STORY_ROOT_DIR"

/-- The root directory if nothing else names one. -/
def standardRoot : Text := "~/.story_server"

/-- The root directory that the environment names, or else the arguments, as an absolute path. -/
def resolveRoot (s : Surroundings) (argument : Option Text) : Text :=
  absolutePath s ((s.environment.get? rootVariable).getD (argument.getD standardRoot))

end DataDirectories

/-- Why a data directory cannot be had. -/
inductive DirectoryError where
  | notAbsolute (role : DirectoryRole) (path : Text)
  | notDirectory (role : DirectoryRole) (path : Text)
  | notPrivate (role : DirectoryRole) (path : Text)
  | notCreated (path reason : Text)
  /-- There is no way to make private directories, as when the home directory is not there. -/
  | mistrust (reason : Text)
  deriving DecidableEq, Repr

namespace DirectoryError

def message : DirectoryError → Text
  | .notAbsolute role path => "The story server " ++ role.label ++ " path must be absolute: " ++ path
  | .notDirectory role path => "The story server " ++ role.label ++ " path must be a directory: " ++ path
  | .notPrivate role path => "The story server " ++ role.label ++ " path must have 0o700 permissions: " ++ path
  | .notCreated path reason => "Make directory error for " ++ Text.quotedPath path ++ ": " ++ reason
  | .mistrust reason => "Mistrust configuration error: " ++ reason

end DirectoryError

namespace DataDirectories

/-- Accepts or creates the directory with a role. -/
def prepare (make : DirectoryMaker) (fs : FileSystem) (role : DirectoryRole) (path : Text) :
    FileSystem × Option DirectoryError :=
  if path.head? ≠ some '/' then (fs, some (.notAbsolute role path))
  else
    match fs.lookUp [] path with
    | .ok entry =>
      (fs, if FileSystem.isPrivate entry then none
        else if entry.isDirectory then some (.notPrivate role path)
        else some (.notDirectory role path))
    | .error _ =>
      let (changed, reason) := make fs path
      (changed, reason.map (.notCreated path))

/-- Accepts or creates the directories with the roles, up to the first that cannot be had. -/
def prepareAll (make : DirectoryMaker) (directories : DataDirectories) :
    FileSystem → List DirectoryRole → FileSystem × Option DirectoryError
  | fs, [] => (fs, none)
  | fs, role :: roles =>
    match prepare make fs role (directories.path role) with
    | (changed, none) => prepareAll make directories changed roles
    | (changed, some e) => (changed, some e)

/-- The group that may tamper with directories: that of the system's own files. -/
def systemGroup : Nat := 0

/-- Sets up the data directories that the surroundings and the arguments name. -/
def setUp (mistrust : Mistrust) (s : Surroundings) (fs : FileSystem) (argument : Option Text) :
    FileSystem × Except DirectoryError DataDirectories :=
  match mistrust fs (absolutePath s "~") systemGroup with
  | .error reason => (fs, .error (.mistrust reason))
  | .ok make =>
    let directories : DataDirectories := ⟨resolveRoot s argument⟩
    match prepareAll make directories fs DirectoryRole.all with
    | (changed, none) => (changed, .ok directories)
    | (changed, some e) => (changed, .error e)

end DataDirectories

end FillInStory
