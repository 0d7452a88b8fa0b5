import FillInStory.Dictionary
import FillInStory.Files.Name
import FillInStory.Text.Quoted

/-! # File systems

A file system gives locations their entries: files, which may be unreadable, directories, symbolic links
and sockets. The root is always a directory. A path is resolved name by name, following links up to a
limit, and every question about a path is answered through the location that it resolves to. The program
is the owner of what it finds, so the owner's permission bits of a directory decide whether it may look
names up in it, list them, or make new entries.
-/

namespace FillInStory

/-- Why a path cannot be used. -/
inductive Fault where
  | notFound
  | permissionDenied
  | notDirectory
  | isDirectory
  | tooManyLinks
  /-- A name or a whole path is longer than the operating system takes. -/
  | nameTooLong
  | noDevice
  | notUtf8
  | nulInName
  deriving DecidableEq, Repr

namespace Fault

/-- The number, the kind and the reason of a fault that the operating system reports. -/
def osError? : Fault → Option (Nat × Text × Text)
  | .notFound => some (2, "NotFound", "No such file or directory")
  | .noDevice => some (6, "Uncategorized", "No such device or address")
  | .permissionDenied => some (13, "PermissionDenied", "Permission denied")
  | .notDirectory => some (20, "NotADirectory", "Not a directory")
  | .isDirectory => some (21, "IsADirectory", "Is a directory")
  | .nameTooLong => some (36, "InvalidFilename", "File name too long")
  | .tooManyLinks => some (40, "FilesystemLoop", "Too many levels of symbolic links")
  | .notUtf8 | .nulInName => none

def message : Fault → Text
  | .notUtf8 => "stream did not contain valid UTF-8"
  | .nulInName => "file name contained an unexpected NUL byte"
  | fault =>
    match fault.osError? with
    | some (code, _, reason) => reason ++ " (os error " ++ Text.decimal code ++ ")"
    | none => []

/-- An error of the operating system with its number and kind. -/
def systemError (code : Nat) (kind reason : Text) : Text :=
  "Os \x7b code: " ++ Text.decimal code ++ ", kind: " ++ kind ++ ", message: " ++ Text.quoted reason
    ++ " \x7d"

/-- A fault with all that is known of it. -/
def details (fault : Fault) : Text :=
  match fault.osError? with
  | some (code, kind, reason) => systemError code kind reason
  | none => "Error \x7b kind: InvalidInput, message: " ++ Text.quoted fault.message ++ " \x7d"

end Fault

/-- What stands at a location. Directories have permission bits, links the path that they lead to. -/
inductive Entry where
  | file (contents : List UInt8)
  /-- A regular file whose contents cannot be read, and why. -/
  | sealedFile (fault : Fault)
  | directory (mode : Nat)
  | link (target : List UInt8)
  | socket
  deriving DecidableEq, Repr

namespace Entry

def isDirectory : Entry → Bool
  | .directory _ => true
  | _ => false

def isFile : Entry → Bool
  | .file _ | .sealedFile _ => true
  | _ => false

end Entry

/-- The entries below the root directory, and the permission bits of that directory. -/
structure FileSystem where
  entries : Dictionary Location Entry
  rootMode : Nat

namespace FileSystem

/-- The file system with nothing but a root directory that others may look into. -/
def empty : FileSystem := ⟨Dictionary.empty, 0o755⟩

def linkLimit : Nat := 40

def nameLimit : Nat := 255

def pathLimit : Nat := 4095

def entryAt (fs : FileSystem) (location : Location) : Option Entry :=
  if location = [] then some (.directory fs.rootMode) else fs.entries.get? location

def isDirectoryAt (fs : FileSystem) (location : Location) : Bool :=
  (fs.entryAt location).any Entry.isDirectory

def modeAt? (fs : FileSystem) (location : Location) : Option Nat :=
  match fs.entryAt location with
  | some (.directory mode) => some mode
  | _ => none

/-- Whether the names in a directory may be listed. -/
def isReadable (mode : Nat) : Bool := mode.testBit 8

/-- Whether names may be looked up in a directory. -/
def isSearchable (mode : Nat) : Bool := mode.testBit 6

def isSearchableAt (fs : FileSystem) (location : Location) : Bool := (fs.modeAt? location).any isSearchable

def put (fs : FileSystem) (location : Location) (entry : Entry) : FileSystem :=
  { fs with entries := fs.entries.insert location entry }

def namesIn (fs : FileSystem) (location : Location) : List FileName :=
  fs.entries.keys.filterMap fun child =>
    if child.dropLast = location then child.getLast? else none

/-- Goes on from a location along names. At a link the walk is handed to `restart` with a new start and
the names still ahead; a link that comes last may be left alone. -/
def walk (fs : FileSystem) (followLast : Bool)
    (restart : Location → List FileName → Except Fault Location) :
    Location → List FileName → Except Fault Location
  | here, [] => .ok here
  | here, name :: rest =>
    if !fs.isDirectoryAt here then .error .notDirectory
    else if name = [] then walk fs followLast restart here rest
    else if !fs.isSearchableAt here then .error .permissionDenied
    else if name = FileName.self then walk fs followLast restart here rest
    else if name = FileName.parent then walk fs followLast restart here.dropLast rest
    else if nameLimit < name.length then .error .nameTooLong
    else
      match fs.entryAt (here ++ [name]) with
      | none => .error .notFound
      | some (.link target) =>
        if rest.isEmpty && !followLast then .ok (here ++ [name])
        else
          restart (if target.head? = some slashByte then [] else here) (pieces slashByte target ++ rest)
      | some _ => walk fs followLast restart (here ++ [name]) rest

/-- Goes on from a location along names, following at most so many links. -/
def follow (fs : FileSystem) (followLast : Bool) :
    (links : Nat) → Location → List FileName → Except Fault Location
  | 0 => fs.walk followLast fun _ _ => .error .tooManyLinks
  | links + 1 => fs.walk followLast (fs.follow followLast links)

/-- The location that a path leads to from a working directory. -/
def resolve (fs : FileSystem) (followLast : Bool) (workingDirectory : Location) (path : Text) :
    Except Fault Location :=
  if '\x00' ∈ path then .error .nulInName
  else if path = [] then .error .notFound
  else if pathLimit < Text.byteSize path then .error .nameTooLong
  else
    fs.follow followLast linkLimit (if path.head? = some '/' then [] else workingDirectory)
      (Location.namesOf path)

/-- What a path leads to, after following links. -/
def lookUp (fs : FileSystem) (workingDirectory : Location) (path : Text) : Except Fault Entry :=
  (fs.resolve true workingDirectory path).bind fun location =>
    match fs.entryAt location with
    | none => .error .notFound
    | some entry => .ok entry

def isDirectory (fs : FileSystem) (workingDirectory : Location) (path : Text) : Bool :=
  match fs.lookUp workingDirectory path with
  | .ok entry => entry.isDirectory
  | .error _ => false

def isFile (fs : FileSystem) (workingDirectory : Location) (path : Text) : Bool :=
  match fs.lookUp workingDirectory path with
  | .ok entry => entry.isFile
  | .error _ => false

def leadsSomewhere (fs : FileSystem) (workingDirectory : Location) (path : Text) : Bool :=
  (fs.lookUp workingDirectory path).toOption.isSome

/-- Whether a path names an entry, which may be a link that leads nowhere. -/
def isPresent (fs : FileSystem) (workingDirectory : Location) (path : Text) : Bool :=
  match fs.resolve false workingDirectory path with
  | .ok location => (fs.entryAt location).isSome
  | .error _ => false

/-- The bytes of the file that a path leads to. -/
def read (fs : FileSystem) (workingDirectory : Location) (path : Text) : Except Fault (List UInt8) :=
  (fs.lookUp workingDirectory path).bind fun
    | .file contents => .ok contents
    | .sealedFile fault => .error fault
    | .directory _ => .error .isDirectory
    | .link _ => .error .tooManyLinks
    | .socket => .error .noDevice

/-- The contents of the file that a path leads to, as a text. -/
def readText (fs : FileSystem) (workingDirectory : Location) (path : Text) : Except Fault Text :=
  (fs.read workingDirectory path).bind fun contents =>
    match Text.ofUtf8? contents with
    | none => .error .notUtf8
    | some text => .ok text

end FileSystem

end FillInStory
