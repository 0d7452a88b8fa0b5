import FillInStory.Files.FileSystem

/-! # Creating directories

Private directories are the business of a library, `Mistrust`: given a place up to which nothing has to be
checked, it gives a way to make directories, or says why not. What the program relies on is that a directory
is made together with the missing ones on the way to it, all private to the owner.

`FileSystem.mistrust` is such a library. It makes nothing below a directory that others can tamper with,
except on the way to the home directory, or in one that the owner may not write. Where the way turns out to
be barred, the directories that were made up to there stay. A file is created together with the missing
directories on the way to it, which need not be private.
-/

namespace FillInStory

/-- A way to make the directory with an absolute path. It leaves a file system, and the reason why the
directory could not be made, if so. -/
abbrev DirectoryMaker := FileSystem → (path : Text) → FileSystem × Option Text

/-- A library that makes private directories: for a path up to which it need not check who may tamper with
directories, and a group whose members may, it gives a way to make them, or the reason why there is none. -/
abbrev Mistrust := FileSystem → (ignored : Text) → (trustedGroup : Nat) → Except Text DirectoryMaker

namespace FileSystem

def privateMode : Nat := 0o700

/-- Whether everybody may write in a directory and remove what others own. -/
def isOpenToAll (mode : Nat) : Bool := mode.testBit 1 && !mode.testBit 9

def isWritable (mode : Nat) : Bool := mode.testBit 7 && mode.testBit 6

/-- Whether directories may be created below the directory at a location. -/
def isTrusted (fs : FileSystem) (home location : Location) : Bool :=
  (fs.modeAt? location).any fun mode => isSearchable mode && (location.isPrefixOf home || !isOpenToAll mode)

/-- The permission bits that a new directory gets where `mode` are asked for: it belongs to the group of the
directory above if that hands its group down, and does so itself. -/
def inheriting (parent mode : Nat) : Nat := if parent.testBit 10 then mode ||| 0o2000 else mode

/-- Makes a new directory in the directory at a location, unless that is forbidden or the name too long. -/
def addDirectory? (fs : FileSystem) (here : Location) (name : FileName) (mode : Nat) : Option FileSystem :=
  match fs.modeAt? here with
  | some parent =>
    if isWritable parent && name.length ≤ nameLimit then
      some (fs.put (here ++ [name]) (.directory (inheriting parent mode)))
    else none
  | none => none

/-- Goes on from a location along names and creates the directories that are missing, telling whether the
end is reached. At a link the way is handed to `restart` with a new start and the names still ahead. -/
def extend (home : Location) (restart : FileSystem → Location → List FileName → FileSystem × Bool) :
    FileSystem → Location → List FileName → FileSystem × Bool
  | fs, _, [] => (fs, true)
  | fs, here, name :: rest =>
    if !fs.isTrusted home here then (fs, false)
    else if name = [] || name = FileName.self then extend home restart fs here rest
    else if name = FileName.parent then extend home restart fs here.dropLast rest
    else if nameLimit < name.length then (fs, false)
    else
      match fs.entryAt (here ++ [name]) with
      | none =>
        match fs.addDirectory? here name privateMode with
        | some created => extend home restart created (here ++ [name]) rest
        | none => (fs, false)
      | some (.directory _) => extend home restart fs (here ++ [name]) rest
      | some (.link target) =>
        if (fs.follow true linkLimit here [name]).toOption.isSome then
          restart fs (if target.head? = some slashByte then [] else here) (pieces slashByte target ++ rest)
        else (fs, false)
      | some _ => (fs, false)

/-- Creates the directories that are missing along names, following at most so many links. -/
def extendFollowing (home : Location) :
    (links : Nat) → FileSystem → Location → List FileName → FileSystem × Bool
  | 0 => extend home fun fs _ _ => (fs, false)
  | links + 1 => extend home (extendFollowing home links)

def publicMode : Nat := 0o755

/-- Creates what is missing along names: directories on the way, and an empty file in the end. Where the
way is barred nothing more is created. -/
def createFileAlong : FileSystem → (here : Location) → List FileName → FileSystem
  | fs, _, [] => fs
  | fs, here, name :: rest =>
    match fs.follow true linkLimit here [name] with
    | .ok next => fs.createFileAlong next rest
    | .error _ =>
      match (fs.entryAt (here ++ [name])).isNone, fs.addDirectory? here name publicMode with
      | true, some created =>
        if rest.isEmpty then fs.put (here ++ [name]) (.file []) else created.createFileAlong (here ++ [name]) rest
      | _, _ => fs

/-- Creates the file that a path names if it is missing, with the directories on the way to it. -/
def createFile (fs : FileSystem) (workingDirectory : Location) (path : Text) : FileSystem :=
  if pathLimit < Text.byteSize path then fs
  else fs.createFileAlong (if path.head? = some '/' then [] else workingDirectory) (Location.namesOf path)

/-- Whether an entry is a directory that is private to its owner. -/
def isPrivate : Entry → Bool
  | .directory mode => mode % 0o1000 = privateMode
  | _ => false

/-- The check that follows on the making of directories: whether the path leads to an entry that is new, or to one
that was a private directory before. -/
def isSafeAt (created fs : FileSystem) (path : Text) : Bool :=
  match created.resolve true [] path with
  | .ok location => (created.entryAt location).isSome && (fs.entryAt location).all isPrivate
  | .error _ => false

/-- Makes the directory with an absolute path that is missing, up to a home directory. -/
def makeDirectory (home : Location) : DirectoryMaker := fun fs path =>
  if pathLimit < Text.byteSize path then (fs, some (Fault.message .nameTooLong))
  else
    let (created, complete) := extendFollowing home linkLimit fs [] (Location.namesOf path)
    (created, if complete && created.isSafeAt fs path then none else some (Fault.message .permissionDenied))

/-- The library where the way to the home directory need not be checked. Entries have no groups here, so that
none is trusted. -/
def mistrust : Mistrust := fun fs ignored _ =>
  match fs.resolve true [] ignored with
  | .error fault => .error fault.message
  | .ok home => if (fs.entryAt home).isNone then .error (Fault.message .notFound) else .ok (makeDirectory home)

end FileSystem

end FillInStory
