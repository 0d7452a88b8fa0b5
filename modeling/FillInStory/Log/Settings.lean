import FillInStory.Files.Creation
import FillInStory.Log.Layout
import FillInStory.Log.Yaml

/-! # Log settings

Setting up the log from a file of settings is the business of a library, `LogSetUp`. What the program relies
on is that no directory is changed or removed by that.

`LogSettings.setUp` is such a library, for settings in plain YAML. They say which records are written where. A
logger is responsible for the targets that its name begins, the most specific one counts, and it writes to its own
appenders and, unless told otherwise, to those of the less specific ones. Of the appenders those that write
to the console are kept with their layouts, and of those that write to files only where the files are.
-/

namespace FillInStory

/-- A library that sets up the log as the file with a path says. It leaves a file system, and what the console
shows, or else what is wrong with the settings. -/
abbrev LogSetUp := FileSystem → (workingDirectory : Location) → (path : Text) → FileSystem × Except Text Console

/-- The most verbose level that is written, or none at all. -/
abbrev LevelLimit := Option Level

namespace LevelLimit

/-- The limit with a name, in small or capital letters. -/
def ofName? (name : Text) : Option LevelLimit :=
  let lower := Text.lowerCase name
  if lower = "off".toList then some none
  else if lower = "error".toList then some (some .error)
  else if lower = "warn".toList then some (some .warn)
  else if lower = "info".toList then some (some .info)
  else if lower = "debug".toList then some (some .debug)
  else if lower = "trace".toList then some (some .trace)
  else none

def admits (limit : LevelLimit) (level : Level) : Bool := limit.any fun most => level.rank ≤ most.rank

end LevelLimit

/-- The rules for the targets that a name begins. -/
structure Logger where
  name : Text
  limit : LevelLimit
  appenders : List Text
  /-- Whether the appenders of less specific loggers count too. -/
  additive : Bool
  deriving DecidableEq, Repr

/-- Which records are written where. -/
structure LogSettings where
  rootLimit : LevelLimit
  rootAppenders : List Text
  loggers : List Logger
  /-- The appenders that write to the console, with their layouts. -/
  consoles : List (Text × Layout)
  /-- The files that appenders write to. -/
  files : List Text
  deriving DecidableEq, Repr

namespace LogSettings

/-- Without settings, records of at least medium severity go to the console. -/
def standard : LogSettings := ⟨some .info, ["stdout"], [], [("stdout", Layout.console)], []⟩

/-- Whether a logger's name is a target or the beginning of one up to a double colon. -/
def covers (name target : Text) : Bool :=
  target = name || (name ++ "::").isPrefixOf target

def rulesFor (settings : LogSettings) (target : Text) : LevelLimit × List Text :=
  let covering := (settings.loggers.filter fun l => covers l.name target).mergeSort fun a b =>
    a.name.length ≤ b.name.length
  covering.foldl
    (fun (_, appenders) l => (l.limit, l.appenders ++ if l.additive then appenders else []))
    (settings.rootLimit, settings.rootAppenders)

def render (settings : LogSettings) (time : Text) (record : Record) : Text :=
  let (limit, appenders) := settings.rulesFor record.origin.target
  if limit.admits record.level then
    appenders.flatMap fun name =>
      match settings.consoles.find? fun c => c.1 = name with
      | some (_, layout) => layout.write time record
      | none => []
  else []

/-! ## Reading -/

def texts? : Yaml → Option (List Text)
  | .sequence items => items.mapM fun
    | .scalar t => some t
    | _ => none
  | _ => none

/-- The members of a mapping, all of which have known names. -/
def knownMembers? (known : List Text) : Yaml → Option (List (Text × Yaml))
  | .mapping members => if members.all fun m => known.contains m.1 then some members else none
  | _ => none

/-- The level limit of a member, or `otherwise` if it is missing. -/
def limitOf? (members : List (Text × Yaml)) (otherwise : Option LevelLimit) : Option LevelLimit :=
  match Yaml.member? members "level" with
  | none => otherwise
  | some (.scalar name) => LevelLimit.ofName? name
  | some _ => none

/-- The appenders of a member, none if it is missing. -/
def appendersOf? (members : List (Text × Yaml)) : Option (List Text) :=
  match Yaml.member? members "appenders" with
  | none => some []
  | some names => texts? names

def logger? (name : Text) (value : Yaml) : Option Logger := do
  let members ← knownMembers? ["level", "appenders", "additive"] value
  let additive ← match Yaml.member? members "additive" with
    | none => some true
    | some (.scalar t) =>
      if t = "true".toList then some true else if t = "false".toList then some false else none
    | some _ => none
  some ⟨name, ← limitOf? members none, ← appendersOf? members, additive⟩

/-- The layout of an appender that writes to the console, if it is one. -/
def console? : Yaml → Option Layout
  | .mapping members =>
    match Yaml.member? members "kind", Yaml.member? members "target" with
    | some (.scalar kind), target =>
      if kind ≠ "console".toList then none
      else if target.any fun | .scalar t => t = "stderr".toList | _ => false then none
      else
        match Yaml.member? members "encoder" with
        | some (.mapping encoder) =>
          match Yaml.member? encoder "pattern" with
          | some (.scalar pattern) => some (Layout.ofPattern pattern)
          | _ => some Layout.plain
        | _ => some Layout.plain
    | _, _ => none
  | _ => none

/-- The file that an appender writes to, if it does. -/
def logFile? : Yaml → Option Text
  | .mapping members =>
    match Yaml.member? members "kind", Yaml.member? members "path" with
    | some (.scalar kind), some (.scalar path) =>
      if kind = "file".toList then some path
      else if kind = "rolling_file".toList && (Yaml.member? members "policy").isSome then some path
      else none
    | _, _ => none
  | _ => none

def membersOf? : Option Yaml → Option (List (Text × Yaml))
  | none => some []
  | some (.mapping members) => some members
  | some _ => none

def timeUnits : List Text :=
  ["ms", "msec", "s", "sec", "second", "seconds", "m", "min", "minute", "minutes", "h", "hr", "hour", "hours",
    "d", "day", "days"]

def isDuration : Yaml → Bool
  | .scalar t =>
    !(t.takeWhile Char.isDigit).isEmpty && timeUnits.contains ((t.dropWhile Char.isDigit).dropWhile (· = ' '))
  | _ => false

/-- Whether a value says what kind of appender it describes. -/
def namesKind : Yaml → Bool
  | .mapping members => match Yaml.member? members "kind" with
    | some (.scalar _) => true
    | _ => false
  | _ => false

def parse? (t : Text) : Option LogSettings := do
  let members ← knownMembers? ["refresh_rate", "root", "appenders", "loggers"] (← Yaml.parse? t)
  guard ((Yaml.member? members "refresh_rate").all isDuration)
  let root ← match Yaml.member? members "root" with
    | none => some []
    | some value => knownMembers? ["level", "appenders"] value
  let loggers ← (← membersOf? (Yaml.member? members "loggers")).mapM fun (name, value) => logger? name value
  let appenders ← membersOf? (Yaml.member? members "appenders")
  guard (appenders.all fun m => namesKind m.2)
  some {
    rootLimit := ← limitOf? root (some (some .debug))
    rootAppenders := ← appendersOf? root
    loggers := loggers
    consoles := appenders.filterMap fun (name, value) => (console? value).map (name, ·)
    files := appenders.filterMap fun (_, value) => logFile? value }

/-- Sets up the log with its files. -/
def setUp : LogSetUp := fun fs workingDirectory path =>
  match fs.readText workingDirectory path with
  | .error fault => (fs, .error fault.message)
  | .ok contents =>
    match parse? contents with
    | none => (fs, .error "The log settings make no sense.")
    | some settings =>
      (settings.files.foldl (fun fs file => fs.createFile workingDirectory file) fs, .ok settings.render)

end LogSettings

end FillInStory
