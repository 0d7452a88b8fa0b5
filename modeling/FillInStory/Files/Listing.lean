import FillInStory.Files.FileSystem
import FillInStory.Files.Wildcard
import FillInStory.Log.Record

/-! # Listing a directory

The regular files of a directory are found through the pattern of its escaped path, a slash and an
asterisk. The pattern is followed component by component: a literal component is a step that needs the
entry to be there, any other one lists the directory reached so far and keeps the names that it stands
for, in byte order. Names that are no texts are passed over, and entries that are no regular files are
reported. The paths that remain are sorted, whatever the order in which they were found. A directory that
has to be listed and cannot be ends it all with an error.
-/

namespace FillInStory

def appendName (path name : Text) : Text :=
  if name.head? = some '/' then name
  else if path = [] || path.getLast? = some '/' then path ++ name
  else path ++ '/' :: name

/-- Whether a path is a spelling of the working directory by dots alone. -/
def namesWorkingDirectory (path : Text) : Bool :=
  match pieces '/' path with
  | [] => false
  | first :: others => first = ['.'] && others.all fun piece => piece = [] || piece = ['.']

/-- The path that goes on from a path by one name. -/
def nextPath (path name : Text) : Text :=
  if namesWorkingDirectory path then name else appendName path name

/-- A directory that cannot be listed: its path, and why. -/
structure ListingFault where
  path : Text
  fault : Fault
  deriving DecidableEq, Repr

def ListingFault.details (found : ListingFault) : Text :=
  "GlobError \x7b path: " ++ Text.quotedPath found.path ++ ", error: " ++ found.fault.details ++ " \x7d"

namespace FileSystem

/-- The names in the directory that a path leads to, in byte order, so far as they are texts. -/
def textNamesIn (fs : FileSystem) (workingDirectory : Location) (path : Text) : List Text :=
  match fs.resolve true workingDirectory path with
  | .error _ => []
  | .ok location => ((fs.namesIn location).mergeSort FileName.le).filterMap Text.ofUtf8?

/-- Why the names in the directory that a path leads to cannot be listed, if so. -/
def listingFault? (fs : FileSystem) (workingDirectory : Location) (path : Text) : Option Fault :=
  match fs.lookUp workingDirectory path with
  | .ok (.directory mode) => if isReadable mode then none else some .permissionDenied
  | .ok _ => some .notDirectory
  | .error fault => some fault

/-- Whether an entry of the directory that a path leads to is a directory, or a link to one. What is no link
says so itself, and need not be looked up. -/
def isDirectoryIn (fs : FileSystem) (workingDirectory : Location) (path name : Text) : Bool :=
  match fs.resolve true workingDirectory path with
  | .error _ => false
  | .ok location =>
    match fs.entryAt (location ++ [Text.utf8 name]) with
    | some (.link _) => fs.isDirectory workingDirectory (nextPath path name)
    | some entry => entry.isDirectory
    | none => false

/-- The paths that begin with `path` and go on with names for which the patterns stand. A directory that has
to be listed and cannot be is a find as well. -/
def matching (fs : FileSystem) (workingDirectory : Location) :
    List (List Wildcard) → (isDirectory : Bool) → (path : Text) → List (Except ListingFault Text)
  | [], _, path => [.ok path]
  | pattern :: patterns, isDirectory, path =>
    match Wildcard.literal? pattern with
    | some name =>
      let next := nextPath path name
      let present : Bool :=
        if name = ['.'] || name = ['.', '.'] then isDirectory
        else fs.leadsSomewhere workingDirectory next || fs.isPresent workingDirectory next
      if present then fs.matching workingDirectory patterns (fs.isDirectory workingDirectory next) next else []
    | none =>
      if !isDirectory then []
      else
        match fs.listingFault? workingDirectory path with
        | some fault => [.error ⟨path, fault⟩]
        | none =>
          ((fs.textNamesIn workingDirectory path).filter (Wildcard.accepts pattern)).flatMap fun name =>
            fs.matching workingDirectory patterns (fs.isDirectoryIn workingDirectory path name) (nextPath path name)

def listingPattern (directory : Text) : Text :=
  Wildcard.escape (Text.dropTrailing '/' directory) ++ "/*"

/-- The paths of the entries of a directory, so far as they can be had. -/
def pathsIn (fs : FileSystem) (workingDirectory : Location) (directory : Text) :
    List (Except ListingFault Text) :=
  match listingPattern directory with
  | '/' :: rest =>
    fs.matching workingDirectory ((pieces '/' rest).map Wildcard.parse) (fs.isDirectory workingDirectory "/") "/"
  | pattern =>
    fs.matching workingDirectory ((pieces '/' pattern).map Wildcard.parse) (fs.isDirectory workingDirectory ".") "."

def notRegular (path : Text) : Record :=
  ⟨.debug, .requests, "Skipping non-regular file " ++ Text.quotedPath path ++ "."⟩

/-- What is said of a directory that has to be listed for the sake of another one. -/
def inaccessible (directory : Text) (found : ListingFault) : Text :=
  "Unable to access a directory entry in " ++ listingPattern directory ++ ": " ++ found.details ++ "."

/-- Takes the regular files among what was found for a directory and reports the other entries, up to a
directory that cannot be listed. -/
def keepFiles (fs : FileSystem) (workingDirectory : Location) (directory : Text) :
    List (Except ListingFault Text) → Logged (Except Text (List Text))
  | [] => pure (.ok [])
  | .ok path :: found =>
    if fs.isFile workingDirectory path then do
      let files ← keepFiles fs workingDirectory directory found
      pure (files.map (path :: ·))
    else do
      Logged.add (notRegular path)
      keepFiles fs workingDirectory directory found
  | .error fault :: _ => do
    Logged.write .error .requests (inaccessible directory fault)
    pure (.error (inaccessible directory fault))

/-- The paths of the regular files of a directory, in order, or what is wrong with its listing. -/
def filesIn (fs : FileSystem) (workingDirectory : Location) (directory : Text) :
    Logged (Except Text (List Text)) := do
  let files ← fs.keepFiles workingDirectory directory (fs.pathsIn workingDirectory directory)
  pure (files.map fun paths => paths.mergeSort PathPart.lePath)

end FileSystem

end FillInStory
