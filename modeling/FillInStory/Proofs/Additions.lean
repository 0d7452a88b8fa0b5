import FillInStory.Proofs.Creation

/-! # What making directories adds

The library that makes private directories is known by what is relied on. Whatever it comes to, all that is new are
private directories that were missing on the way to a path, and if it succeeds the path leads to a private one
(`DirectoryMaker.Lawful`). So nothing else becomes new where only the last name is missing
(`DirectoryMaker.Lawful.addsPrivate_child`).
-/

namespace FillInStory

variable {fs gs hs : FileSystem} {here final location : Location} {name : FileName} {places : Location → Prop}

namespace FileSystem

/-- A place on the way to a path: some of the first names of the path lead there. -/
def OnWay (fs : FileSystem) (path : Text) (location : Location) : Prop :=
  ∃ names, names <+: Location.namesOf path ∧ fs.follow true linkLimit [] names = .ok location

/-- A place where a directory is made for a name of a path: the names before lead to the directory in which it
stands, and the name leads to it. -/
def MadeOnWay (fs : FileSystem) (path : Text) (location : Location) : Prop :=
  ∃ front name here, front ++ [name] <+: Location.namesOf path ∧ fs.follow true linkLimit [] front = .ok here ∧
    location = here ++ [name] ∧ fs.follow true linkLimit [] (front ++ [name]) = .ok location

theorem MadeOnWay.onWay {path : Text} (made : fs.MadeOnWay path location) : fs.OnWay path location := by
  obtain ⟨front, name, -, part, -, -, leads⟩ := made
  exact ⟨front ++ [name], part, leads⟩

/-- One file system has all the entries of another one and otherwise only directories that are private to their
owner, each at one of some places. -/
structure AddsPrivate (gs fs : FileSystem) (places : Location → Prop) : Prop where
  keeps : gs.Extends fs
  added : ∀ location entry, fs.entryAt location = none → gs.entryAt location = some entry →
    isPrivate entry ∧ places location

namespace AddsPrivate

theorem refl (fs : FileSystem) (places : Location → Prop) : fs.AddsPrivate fs places where
  keeps := Extends.refl fs
  added location entry absent stands := by
    rw [absent] at stands
    cases stands

theorem mono {others : Location → Prop} (adds : gs.AddsPrivate fs places)
    (within : ∀ location, places location → others location) : gs.AddsPrivate fs others where
  keeps := adds.keeps
  added location entry absent stands := (adds.added location entry absent stands).imp_right (within location)

theorem trans (later : hs.AddsPrivate gs places) (earlier : gs.AddsPrivate fs places) : hs.AddsPrivate fs places where
  keeps := later.keeps.trans earlier.keeps
  added location entry absent stands := by
    cases between : gs.entryAt location with
    | none => exact later.added location entry between stands
    | some other =>
      obtain rfl : entry = other := Option.some.inj (stands.symm.trans (later.keeps location other between))
      exact earlier.added location entry absent between

end AddsPrivate

theorem entryAt_put (below : location ≠ []) (fs : FileSystem) (entry : Entry) (other : Location) :
    (fs.put location entry).entryAt other = if location = other then some entry else fs.entryAt other := by
  unfold entryAt put
  rw [Dictionary.get?_insert]
  split_ifs with root same same
  · exact absurd (same.trans root) below
  · rfl
  · rfl
  · rfl

theorem isPrivate_inheriting (parent : Nat) : isPrivate (.directory (inheriting parent privateMode)) := by
  unfold inheriting
  split
  · decide
  · decide

/-- A directory that is made belongs to the owner alone, and it is the only new entry. -/
theorem addsPrivate_of_addDirectory? (absent : fs.entryAt (here ++ [name]) = none)
    (added : fs.addDirectory? here name privateMode = some gs) :
    gs.AddsPrivate fs (· = here ++ [name]) ∧ ∃ mode, gs.entryAt (here ++ [name]) = some (.directory mode) := by
  have keeps := extends_of_addDirectory? absent added
  unfold addDirectory? at added
  split at added
  · next parent _ =>
    split_ifs at added
    obtain rfl := Option.some.inj added
    have put := entryAt_put (List.append_ne_nil_of_right_ne_nil here (List.cons_ne_nil name [])) fs
      (.directory (inheriting parent privateMode))
    refine ⟨⟨keeps, fun location entry absent stands => ?_⟩, _, (put _).trans (if_pos rfl)⟩
    rw [put] at stands
    split_ifs at stands with same
    · obtain rfl := Option.some.inj stands
      exact ⟨isPrivate_inheriting parent, same.symm⟩
    · cases absent.symm.trans stands
  · cases added

end FileSystem

/-! ## Lawful ways -/

/-- What is relied on of a way to make directories, for paths that lead nowhere yet. -/
structure DirectoryMaker.Lawful (make : DirectoryMaker) : Prop where
  /-- Whether it succeeds or not, what is new are private directories that were missing on the way to the path. -/
  adds : ∀ {fs : FileSystem} {path : Text} {fault : Fault}, fs.lookUp [] path = .error fault →
    (make fs path).1.AddsPrivate fs ((make fs path).1.MadeOnWay path)
  /-- If it succeeds, the path leads to a private directory. -/
  makes : ∀ {fs : FileSystem} {path : Text} {fault : Fault}, fs.lookUp [] path = .error fault →
    (make fs path).2 = none → ∃ entry, (make fs path).1.lookUp [] path = .ok entry ∧ FileSystem.isPrivate entry

/-- What is relied on of a library that makes private directories. -/
structure Mistrust.Lawful (mistrust : Mistrust) : Prop where
  makers : ∀ {fs : FileSystem} {ignored : Text} {trustedGroup : Nat} {make : DirectoryMaker},
    mistrust fs ignored trustedGroup = .ok make → make.Lawful
  /-- Where it offers a way to make directories, it goes on doing so when there are more entries. -/
  persists : ∀ {fs gs : FileSystem} {ignored : Text} {trustedGroup : Nat} {make : DirectoryMaker},
    mistrust fs ignored trustedGroup = .ok make → gs.Extends fs → ∃ other, mistrust gs ignored trustedGroup = .ok other

namespace FileSystem

theorem follow_of_resolve {followLast : Bool} {path : Text} (resolved : fs.resolve followLast [] path = .ok location) :
    fs.follow followLast linkLimit [] (Location.namesOf path) = .ok location := by
  unfold resolve at resolved
  split_ifs at resolved <;> exact resolved

/-- On the way to a directory that stands there is nothing to be made. -/
theorem isDirectoryAt_of_onWay {path : Text} (resolved : fs.resolve true [] path = .ok final)
    (directory : fs.isDirectoryAt final) (larger : gs.Extends fs) (onWay : gs.OnWay path location) :
    fs.isDirectoryAt location := by
  obtain ⟨names, ⟨more, whole⟩, leads⟩ := onWay
  have arrived := follow_of_resolve resolved
  rw [← whole] at arrived
  obtain ⟨mid, found⟩ := exists_follow_of_append names (Or.inr rfl) arrived
  obtain rfl : mid = location := Except.ok.inj ((larger.follow_eq found).symm.trans leads)
  obtain ⟨left, goesOn⟩ := exists_follow_append found
  rw [goesOn true more (Or.inr rfl)] at arrived
  cases more with
  | nil =>
    rw [follow_nil] at arrived
    exact Except.ok.inj arrived ▸ directory
  | cons name rest => exact isDirectoryAt_of_follow (List.cons_ne_nil _ _) arrived

end FileSystem

namespace DirectoryMaker.Lawful

variable {make : DirectoryMaker} (lawful : make.Lawful)
include lawful

/-- Where one directory in another one is missing, it is the only one that can be new. -/
theorem addsPrivate_child {path parent : Text} {fault : Fault} (missing : fs.lookUp [] path = .error fault)
    (names : Location.namesOf path = Location.namesOf parent ++ [name])
    (resolved : fs.resolve true [] parent = .ok here) (directory : fs.isDirectoryAt here) :
    (make fs path).1.AddsPrivate fs (· = here ++ [name]) where
  keeps := (lawful.adds missing).keeps
  added location entry absent stands := by
    have adds := lawful.adds missing
    obtain ⟨priv, front, last, there, part, leads, rfl, found⟩ := adds.added location entry absent stands
    refine ⟨priv, ?_⟩
    rw [names, List.prefix_concat_iff] at part
    rcases part with whole | within
    · obtain ⟨rfl, same⟩ := List.append_inj' whole rfl
      obtain rfl := List.head_eq_of_cons_eq same
      rw [adds.keeps.follow_eq (FileSystem.follow_of_resolve resolved)] at leads
      rw [Except.ok.inj leads]
    · have stood := FileSystem.isDirectoryAt_of_onWay resolved directory adds.keeps ⟨_, within, found⟩
      rw [FileSystem.isDirectoryAt, absent] at stood
      cases stood

end DirectoryMaker.Lawful

end FillInStory
