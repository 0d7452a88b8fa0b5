import FillInStory.Files.Expansion
import FillInStory.Text.Blank
import FillInStory.Text.Numeral

/-! # Settings with several sources

The port and the stories' directory can be named in more than one place; here is which place counts.
-/

namespace FillInStory

def portLimit : Nat := 65535

/-- The environment gave a port that is none. -/
structure PortError where
  value : Text
  reason : NumeralError
  deriving DecidableEq, Repr

namespace PortError

def message (e : PortError) : Text := "Invalid PORT value '" ++ e.value ++ "': " ++ e.reason.message

end PortError

/-- The port of the environment, or else of the arguments, or else of the configuration. A port of the
environment that cannot be read is an error, whatever the other two are. -/
def resolvePort (environment : Option Text) (argument : Option Nat) (configured : Nat) :
    Except PortError Nat :=
  match environment with
  | some value => (Text.readNumeral portLimit (Text.trim value)).mapError (PortError.mk value)
  | none => .ok (argument.getD configured)

/-- The stories' directory of the arguments, or else of the configuration, as an absolute path; or else
the standard one as it is. -/
def resolveStoriesDirectory (s : Surroundings) (argument configured : Option Text) (standard : Text) :
    Text :=
  match argument.or configured with
  | some directory => absolutePath s directory
  | none => standard

end FillInStory
