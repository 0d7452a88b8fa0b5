import FillInStory.Files.FileSystem
import FillInStory.Story.ParseError

/-! # Failures of story collections -/

namespace FillInStory

/-- Why a collection of stories cannot be had, or a template not be found in it. -/
inductive StoryError where
  | directoryRead (directory reason : Text)
  | fileRead (path : Text) (fault : Fault)
  | templateParse (path : Text) (defect : ParseError)
  | emptyCollection (place : Text)
  | indexOutOfRange (number count : Nat)
  deriving DecidableEq, Repr

namespace StoryError

def message : StoryError → Text
  | .directoryRead directory reason => "Unable to read story directory " ++ directory ++ ": " ++ reason
  | .fileRead path fault => "Unable to read story file " ++ path ++ ": " ++ fault.message
  | .templateParse path defect => "File " ++ path ++ " didn't parse: " ++ defect.message
  | .emptyCollection place => "No story templates found in " ++ place
  | .indexOutOfRange number count =>
    "Unknown template number " ++ Text.decimal number ++ ", there are " ++ Text.decimal count ++ " templates."

end StoryError

end FillInStory
