import FillInStory.Files.Listing
import FillInStory.Story.Collection

/-! # Loading a collection from a directory

Every regular file of a directory is one template, unless the beginning of its name says that it is to be
skipped. Files are taken in byte order of their names, and the first that cannot be read or parsed ends
the loading, as does a directory that cannot be listed. Each file leaves one record in the log.
-/

namespace FillInStory

/-- The name of the entry that a path ends with, passing over final slashes and dots. -/
def FileName.ofPath? (path : List UInt8) : Option FileName :=
  match (pieces slashByte path).reverse.dropWhile fun name => name = [] || name = FileName.self with
  | [] => none
  | name :: _ => if name = FileName.parent then none else some name

/-- Which files of a directory are loaded and which are accepted. -/
structure LoadPolicy where
  requireFields : Bool
  /-- Files whose names begin with this are skipped; if it is empty none is. -/
  skipStart : Text
  deriving DecidableEq, Repr

namespace LoadPolicy

/-- Templates must have fields, and files whose names begin with a dot are skipped. -/
def standard : LoadPolicy := ⟨true, "."⟩

def skips (skipStart : Text) (path : List UInt8) : Bool :=
  !skipStart.isEmpty &&
    match (FileName.ofPath? path).bind Text.ofUtf8? with
    | some name => skipStart.isPrefixOf name
    | none => false

end LoadPolicy

namespace Template

def ofFile (fs : FileSystem) (workingDirectory : Location) (requireFields : Bool) (path : Text) :
    Except StoryError Template :=
  match fs.readText workingDirectory path with
  | .error fault => .error (.fileRead path fault)
  | .ok text => (ofText requireFields text).mapError (.templateParse path)

end Template

namespace Collection

/-- Makes templates of files up to the first that fails. -/
def loadFiles (fs : FileSystem) (workingDirectory : Location) (policy : LoadPolicy) :
    List Text → Logged (Except StoryError (List Template))
  | [] => pure (.ok [])
  | path :: paths =>
    if LoadPolicy.skips policy.skipStart (Text.utf8 path) then do
      Logged.write .debug .collection ("Skipping story file " ++ Text.quotedPath path ++ ".")
      loadFiles fs workingDirectory policy paths
    else
      match Template.ofFile fs workingDirectory policy.requireFields path with
      | .error e => do
        Logged.write .error .collection e.message
        pure (.error e)
      | .ok template => do
        Logged.write .debug .collection
          ("Loaded story file " ++ Text.quotedPath path ++ " with "
            ++ Text.decimal template.fields.size ++ " fields.")
        let others ← loadFiles fs workingDirectory policy paths
        pure (others.map (template :: ·))

def load (fs : FileSystem) (workingDirectory : Location) (now : Instant) (policy : LoadPolicy)
    (directory : Text) : Logged (Except StoryError Collection) :=
  if !fs.isDirectory workingDirectory directory then
    pure (.error (.directoryRead directory "not a directory"))
  else do
    match ← fs.filesIn workingDirectory directory with
    | .error message => pure (.error (.directoryRead directory message))
    | .ok paths =>
      match ← loadFiles fs workingDirectory policy paths with
      | .error e => pure (.error e)
      | .ok templates =>
        match ofTemplates directory now templates with
        | .error e => pure (.error e)
        | .ok stories => do
          Logged.write .info .collection
            ("Loaded " ++ Text.decimal stories.size ++ " story templates from " ++ directory ++ ".")
          pure (.ok stories)

end Collection

end FillInStory
