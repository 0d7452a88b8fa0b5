import FillInStory.Settings.Choices
import FillInStory.Settings.Outline

/-! # Command line arguments

Options have a long name after two hyphens and a letter after one. A value may follow an option as the next
argument, after an equals sign, or right after the letter; letters without values may stand together. Two
hyphens alone end the options, and no argument that is no option is accepted. Faults that reading meets
come before missing values, those before values that are no ports, and those before repeated options.
-/

namespace FillInStory

structure Arguments where
  rootDirectory : Option Text
  storiesDirectory : Option Text
  port : Option Nat
  createOnly : Bool
  deriving DecidableEq, Repr

namespace Arguments

def outline (a : Arguments) : Outline :=
  .record "StoryArgs" [("root_dir", .optional .text a.rootDirectory),
    ("stories_dir", .optional .text a.storiesDirectory), ("port", .optional .number a.port),
    ("create_dirs_only", .truth a.createOnly)]

end Arguments

/-- Why there are no arguments to go on with. -/
inductive ArgumentStop where
  | unknownArgument
  | emptyValue
  | valueValidation
  | multipleUsage
  | helpDisplayed
  | versionDisplayed
  deriving DecidableEq, Repr

namespace ArgumentStop

/-- Whether the program was only asked about itself. -/
def isAnswer : ArgumentStop → Bool
  | .helpDisplayed | .versionDisplayed => true
  | _ => false

end ArgumentStop

inductive ValueOption where
  | rootDirectory
  | storiesDirectory
  | port
  deriving DecidableEq, Repr

/-- The options that take no value. -/
inductive Switch where
  | createOnly
  | help
  | version
  deriving DecidableEq, Repr

namespace ValueOption

def ofName? (name : Text) : Option ValueOption :=
  if name = "root-dir".toList then some .rootDirectory
  else if name = "stories-dir".toList then some .storiesDirectory
  else if name = "port".toList then some .port
  else none

def ofLetter? : Char → Option ValueOption
  | 'r' => some .rootDirectory
  | 's' => some .storiesDirectory
  | 'p' => some .port
  | _ => none

end ValueOption

namespace Switch

def ofName? (name : Text) : Option Switch :=
  if name = "create-dirs-only".toList then some .createOnly
  else if name = "help".toList then some .help
  else if name = "version".toList then some .version
  else none

def ofLetter? : Char → Option Switch
  | 'c' => some .createOnly
  | 'h' => some .help
  | 'V' => some .version
  | _ => none

end Switch

namespace Arguments

/-- What the argument read last asks of the next one. -/
inductive Expectation where
  | anything
  /-- An option has just got its value, so that the next argument begins something new. -/
  | newArgument
  | value (o : ValueOption)
  deriving DecidableEq, Repr

/-- What has been read so far: the options and their values in order, how often the directories were to be
only created, and whether two hyphens have ended the options. -/
structure Reading where
  options : List ValueOption
  values : List (ValueOption × Text)
  creations : Nat
  expects : Expectation
  ended : Bool
  deriving DecidableEq, Repr

namespace Reading

def start : Reading := ⟨[], [], 0, .anything, false⟩

/-- An option, with its value if that stands in the same argument. -/
def takeOption (r : Reading) (o : ValueOption) (value : Option Text) : Reading :=
  match value with
  | none => { r with options := r.options ++ [o], expects := .value o }
  | some v =>
    { r with
      options := r.options ++ [o]
      values := r.values ++ [(o, v.dropWhile (· = '='))]
      expects := .newArgument }

def takeSwitch (r : Reading) : Switch → Except ArgumentStop Reading
  | .createOnly => .ok { r with creations := r.creations + 1, expects := .anything }
  | .help => .error .helpDisplayed
  | .version => .error .versionDisplayed

/-- An argument that begins with two hyphens. -/
def takeLong (r : Reading) (argument : Text) : Except ArgumentStop Reading :=
  let (name, value) := Text.cut '=' (argument.dropWhile (· = '-'))
  match ValueOption.ofName? name, Switch.ofName? name with
  | some o, _ => .ok (r.takeOption o value)
  | none, some s => r.takeSwitch s
  | none, none => .error .unknownArgument

/-- The letters after one hyphen. -/
def takeLetters (r : Reading) : Text → Except ArgumentStop Reading
  | [] => .ok r
  | c :: rest =>
    match ValueOption.ofLetter? c, Switch.ofLetter? c with
    | some o, _ => .ok (r.takeOption o (if rest.isEmpty then none else some rest))
    | none, some s => (r.takeSwitch s).bind fun r => r.takeLetters rest
    | none, none => .error .unknownArgument

/-- Whether an argument begins something new rather than being a value. -/
def beginsNew (r : Reading) (argument : Text) : Bool :=
  r.expects = .newArgument || (argument.head? = some '-' && argument.length ≠ 1)

def take (r : Reading) (argument : Text) : Except ArgumentStop Reading :=
  if r.ended then .error .unknownArgument
  else if argument = "--".toList then .ok { r with ended := true }
  else if r.beginsNew argument then
    match argument with
    | '-' :: '-' :: _ => r.takeLong argument
    | '-' :: c :: rest => r.takeLetters (c :: rest)
    | _ => .error .unknownArgument
  else
    match r.expects with
    | .value o => .ok { r with values := r.values ++ [(o, argument)], expects := .newArgument }
    | _ => .error .unknownArgument

def valuesOf (r : Reading) (o : ValueOption) : List Text :=
  (r.values.filter fun v => v.1 = o).map Prod.snd

/-- What has been said when all arguments are read. -/
def finish (r : Reading) : Except ArgumentStop Arguments :=
  if r.options.any fun o => (r.valuesOf o).isEmpty then .error .emptyValue
  else
    let ports := (r.valuesOf .port).map (Text.readNumeral portLimit)
    if ports.any fun p => p.toOption.isNone then .error .valueValidation
    else if 1 < r.creations || !decide r.options.Nodup then .error .multipleUsage
    else
      .ok ⟨(r.valuesOf .rootDirectory).head?, (r.valuesOf .storiesDirectory).head?,
        ports.head?.bind Except.toOption, 0 < r.creations⟩

end Reading

def usage : Text :=
  "USAGE:\n    story_server [OPTIONS]\n\n"
    ++ "    -c, --create-dirs-only     Create the data directories and then exit\n"
    ++ "    -h, --help                 Say how the program is called\n"
    ++ "    -V, --version              Say which version this is\n"
    ++ "    -p, --port <port>          Listen on this port, unless PORT names one\n"
    ++ "    -r, --root-dir <dir>       Keep the data here, unless STORY_ROOT_DIR names a directory\n"
    ++ "    -s, --stories-dir <dir>    Load story templates from this directory\n"

def parse (arguments : List Text) : Except ArgumentStop Arguments :=
  (arguments.foldlM Reading.take Reading.start).bind Reading.finish

end Arguments

end FillInStory
