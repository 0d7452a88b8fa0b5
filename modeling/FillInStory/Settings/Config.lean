import FillInStory.Settings.Choices
import FillInStory.Settings.Outline
import FillInStory.Story.Loading
import FillInStory.Toml.Parser

/-! # The configuration

The configuration is a TOML document. Every key may be left out, which leaves the setting at its standard
value, and keys that mean nothing here are passed over; but a value of the wrong kind is an error. The words
for what is wrong with a document are the TOML library's, and taken from outside.
-/

namespace FillInStory

structure Config where
  title : Text
  httpAddress : Text
  httpPort : Nat
  storiesDirectory : Option Text
  requireFields : Bool
  skipStart : Text
  enableTls : Bool
  deriving DecidableEq, Repr

namespace Config

def standard : Config where
  title := "Story Server"
  httpAddress := "http://localhost"
  httpPort := 8000
  storiesDirectory := none
  requireFields := true
  skipStart := LoadPolicy.standard.skipStart
  enableTls := false

def outline (config : Config) : Outline :=
  .record "Config" [("title", .text config.title), ("http_addr", .text config.httpAddress),
    ("http_port", .number config.httpPort), ("stories_dir", .optional .text config.storiesDirectory),
    ("require_fields", .truth config.requireFields), ("skip_prefix", .text config.skipStart),
    ("enable_tls", .truth config.enableTls)]

/-- The rules for loading stories that the settings name. -/
def loadPolicy (config : Config) : LoadPolicy := ⟨config.requireFields, config.skipStart⟩

/-- The value of a key that `kind` accepts, or else the standard one if the key is missing. -/
def setting {α : Type} (document : Toml.Document) (key : Text) (kind : Toml.Value → Option α)
    (otherwise : α) : Option α :=
  match document.root? key with
  | none => some otherwise
  | some (.value v) => kind v
  | some _ => none

def textKind : Toml.Value → Option Text
  | .string t => some t
  | _ => none

def truthKind : Toml.Value → Option Bool
  | .boolean b => some b
  | _ => none

def portKind : Toml.Value → Option Nat
  | .integer n => if 0 ≤ n && n ≤ portLimit then some n.toNat else none
  | _ => none

def ofDocument? (document : Toml.Document) : Option Config := do
  some {
    title := ← setting document "title" textKind standard.title
    httpAddress := ← setting document "http_addr" textKind standard.httpAddress
    httpPort := ← setting document "http_port" portKind standard.httpPort
    storiesDirectory :=
      ← setting document "stories_dir" (fun v => (textKind v).map some) standard.storiesDirectory
    requireFields := ← setting document "require_fields" truthKind standard.requireFields
    skipStart := ← setting document "skip_prefix" textKind standard.skipStart
    enableTls := ← setting document "enable_tls" truthKind standard.enableTls }

def parse? (t : Text) : Option Config := (Toml.parse? t).bind ofDocument?

/-- What is said of a file with a configuration that makes no settings, for a reason. -/
def parseError (file reason : Text) : Text := "Unable to parse TOML file: " ++ file ++ "\n   " ++ reason

/-- Reads the settings of the text in a file, with a record if there are none. What is wrong with a text that
makes none is for `explain` to say. -/
def read (explain : Text → Text) (t file : Text) : Logged (Except Text Config) :=
  match parse? t with
  | some config => pure (.ok config)
  | none => do
    Logged.write .error .settings (parseError file (explain t))
    pure (.error (parseError file (explain t)))

end Config

end FillInStory
