import FillInStory.Files.Expansion
import FillInStory.Files.FileSystem
import FillInStory.Json.Parser
import FillInStory.Log.Settings
import FillInStory.Time.Instant
import FillInStory.Web.Server

/-! # Hosts

A host is all that a run finds where it is started, the libraries that act for it included, so that what the
run does is a function of its host and its arguments. A JSON object describes a host: `directory` is the path
of the working directory, `account` that of the account's home directory, `environment` holds the variables,
and `files` the entries by their paths, of which `/` may be one.
-/

namespace FillInStory

/-- What a run finds where it is started. -/
structure Host where
  surroundings : Surroundings
  files : FileSystem
  /-- Ports on which somebody listens already. -/
  busyPorts : List Nat
  /-- Whether a key and a certificate can be used together. -/
  certifies : (key certificate : List UInt8) → Bool
  mistrust : Mistrust
  logSetUp : LogSetUp
  /-- What is wrong with a text that makes no configuration. -/
  explain : Text → Text
  now : Instant
  build : BuildInfo

namespace Entry

/-- The entry that a value describes: a text is the contents of a file, a number the permission bits of a
directory in octal digits, and a text in brackets the target of a link. -/
def ofJson? : Json → Option Entry
  | .string contents => some (.file (Text.utf8 contents))
  | .number (.natural mode) =>
    some (.directory ((Text.decimal mode).foldl (fun n c => n * 8 + (c.toNat - '0'.toNat)) 0))
  | .array [.string target] => some (.link (Text.utf8 target))
  | _ => none

end Entry

namespace FileSystem

/-- The file system with one more entry that a member describes. At the root there can only be a directory. -/
def addMember? (fs : FileSystem) (path : Text) (entry : Entry) : Option FileSystem :=
  match Location.go [] (Location.namesOf path), entry with
  | [], .directory mode => some { fs with rootMode := mode }
  | [], _ => none
  | location, entry => some (fs.put location entry)

def ofMembers? (members : List (Text × Json)) : Option FileSystem :=
  members.foldlM (fun fs (path, value) => (Entry.ofJson? value).bind (fs.addMember? path)) empty

end FileSystem

namespace Host

/-- The members of the object that is a member, none if it is missing. -/
def membersOf? (members : List (Text × Json)) (name : Text) : Option (List (Text × Json)) :=
  match Json.member? members name with
  | none => some []
  | some (.object found) => some found
  | some _ => none

/-- The text that is a member, or `otherwise` if it is missing. -/
def textOf? (members : List (Text × Json)) (name otherwise : Text) : Option Text :=
  match Json.member? members name with
  | none => some otherwise
  | some (.string t) => some t
  | some _ => none

/-- The host that a JSON value describes, where no port is taken and no certificate is accepted. -/
def ofJson? (build : BuildInfo) : Json → Option Host
  | .object members => do
    let environment ← (← membersOf? members "environment").mapM fun (name, value) =>
      (Json.scalarText? value).map (name, ·)
    let directory ← textOf? members "directory" "/"
    some {
      surroundings := {
        environment := Dictionary.ofList environment
        workingDirectory := some (Location.go [] (Location.namesOf directory))
        accountHome := ← textOf? members "account" "/root" }
      files := ← FileSystem.ofMembers? (← membersOf? members "files")
      busyPorts := []
      certifies := fun _ _ => false
      mistrust := FileSystem.mistrust
      logSetUp := LogSettings.setUp
      explain := fun _ => "TOML parse error"
      now := Instant.epoch
      build := build }
  | _ => none

end Host

end FillInStory
