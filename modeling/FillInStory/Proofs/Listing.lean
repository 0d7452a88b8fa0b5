import FillInStory.Proofs.PathNames
import FillInStory.Proofs.Walk
import FillInStory.Proofs.Wildcard
import Mathlib.Data.List.Nodup

/-! # The listing of a directory finds its entries

The listing follows a pattern from where the path of the directory begins. As long as it has come to
paths that open directories (`Opens`), each component of the pattern is followed to the one name that it
was made of, and the asterisk at the end to every entry of the directory. So the listing has exactly one
path for each entry whose name is a text, in byte order of the names (`pathsIn_eq`). The only paths
of directories that this does not hold of begin with dots and go on with a doubled slash: after the dots
the path is still empty, and the empty name makes it a path that leads nowhere.
-/

namespace FillInStory

/-! ## The entries of a directory -/

namespace FileSystem

variable {fs : FileSystem} {workingDirectory location : Location} {directory path : Text}

theorem mem_namesIn {name : FileName} :
    name ∈ fs.namesIn location ↔ location ++ [name] ∈ fs.entries.keys := by
  simp only [namesIn, List.mem_filterMap, Option.ite_none_right_eq_some]
  constructor
  · rintro ⟨child, member, same, last⟩
    obtain ⟨before, rfl⟩ := List.getLast?_eq_some_iff.mp last
    simpa [← same] using member
  · intro member
    exact ⟨location ++ [name], member, by simp, by simp⟩

theorem nodup_namesIn (fs : FileSystem) (location : Location) : (fs.namesIn location).Nodup := by
  refine List.Nodup.filterMap ?_ fs.entries.nodup_keys
  intro child other name here there
  simp only [Option.mem_def, Option.ite_none_right_eq_some] at here there
  obtain ⟨before, rfl⟩ := List.getLast?_eq_some_iff.mp here.2
  obtain ⟨before', rfl⟩ := List.getLast?_eq_some_iff.mp there.2
  simpa using here.1.trans there.1.symm

/-- A text that names an entry of the directory that a path leads to. -/
def HasChild (fs : FileSystem) (workingDirectory : Location) (directory name : Text) : Prop :=
  ∃ location, fs.resolve true workingDirectory directory = .ok location ∧
    Text.utf8 name ∈ fs.namesIn location

/-- The texts that name entries of a directory are known when the names in it are. -/
theorem hasChild_iff_mem {texts : List Text} (resolved : fs.resolve true workingDirectory directory = .ok location)
    (names : fs.namesIn location = texts.map Text.utf8) (name : Text) :
    fs.HasChild workingDirectory directory name ↔ name ∈ texts := by
  constructor
  · rintro ⟨place, found, member⟩
    obtain rfl : location = place := Except.ok.inj (resolved.symm.trans found)
    rw [names] at member
    exact (List.mem_map_of_injective Text.utf8_injective).mp member
  · intro member
    exact ⟨location, resolved, names ▸ List.mem_map_of_mem member⟩

theorem textNamesIn_of_resolve (found : fs.resolve true workingDirectory path = .ok location) :
    fs.textNamesIn workingDirectory path =
      ((fs.namesIn location).mergeSort FileName.le).filterMap Text.ofUtf8? := by
  simp only [textNamesIn, found]

theorem mem_textNamesIn {name : Text} :
    name ∈ fs.textNamesIn workingDirectory directory ↔ fs.HasChild workingDirectory directory name := by
  unfold textNamesIn HasChild
  cases fs.resolve true workingDirectory directory with
  | error fault => simp
  | ok location => simp [Text.ofUtf8?_eq_some_iff]

theorem nodup_textNamesIn (fs : FileSystem) (workingDirectory : Location) (directory : Text) :
    (fs.textNamesIn workingDirectory directory).Nodup := by
  unfold textNamesIn
  cases fs.resolve true workingDirectory directory with
  | error fault => exact List.nodup_nil
  | ok location =>
    refine List.Nodup.filterMap ?_ ((List.mergeSort_perm _ _).nodup_iff.mpr (nodup_namesIn fs location))
    intro bytes other name first second
    rw [Option.mem_def, Text.ofUtf8?_eq_some_iff] at first second
    exact first.symm.trans second

/-! ## Following a pattern -/

def startOf (workingDirectory : Location) (path : Text) : Location :=
  if path.head? = some '/' then [] else workingDirectory

/-- A path that the system takes. -/
structure Usable (path : Text) : Prop where
  noNul : '\x00' ∉ path
  nonempty : path ≠ []
  short : Text.byteSize path ≤ pathLimit

theorem resolve_of_usable (usable : Usable path) (fs : FileSystem) (followLast : Bool)
    (workingDirectory : Location) :
    fs.resolve followLast workingDirectory path =
      fs.follow followLast linkLimit (startOf workingDirectory path) (Location.namesOf path) := by
  simp [resolve, startOf, usable.noNul, usable.nonempty, Nat.not_lt.mpr usable.short]

theorem usable_of_resolve {followLast : Bool}
    (found : fs.resolve followLast workingDirectory path = .ok location) : Usable path := by
  unfold resolve at found
  split at found
  · cases found
  split at found
  · cases found
  split at found
  · cases found
  · next nul empty long => exact ⟨nul, empty, Nat.not_lt.mp long⟩

theorem isDirectoryAt_iff : fs.isDirectoryAt location ↔ ∃ mode, fs.entryAt location = some (.directory mode) := by
  unfold isDirectoryAt
  rcases fs.entryAt location with _ | entry
  · simp
  · cases entry <;> simp [Entry.isDirectory]

/-- A path leads to the directory at a location, and a walk goes on from there with so many links. -/
structure Opens (fs : FileSystem) (workingDirectory : Location) (path : Text) (links : Nat)
    (location : Location) : Prop where
  usable : Usable path
  directory : fs.isDirectoryAt location
  goesOn : ∀ followLast more, more ≠ [] ∨ followLast = true →
    fs.follow followLast linkLimit (startOf workingDirectory path) (Location.namesOf path ++ more) =
      fs.follow followLast links location more

namespace Opens

variable {links : Nat} (opens : fs.Opens workingDirectory path links location)
include opens

theorem resolve : fs.resolve true workingDirectory path = .ok location := by
  rw [resolve_of_usable opens.usable]
  simpa using opens.goesOn true [] (Or.inr rfl)

theorem lookUp : ∃ mode, fs.lookUp workingDirectory path = .ok (.directory mode) := by
  obtain ⟨mode, present⟩ := isDirectoryAt_iff.mp opens.directory
  exact ⟨mode, by simp [FileSystem.lookUp, opens.resolve, Except.bind, present]⟩

theorem isDirectory : fs.isDirectory workingDirectory path := by
  obtain ⟨mode, found⟩ := opens.lookUp
  simp [FileSystem.isDirectory, found, Entry.isDirectory]

theorem leadsSomewhere : fs.leadsSomewhere workingDirectory path := by
  obtain ⟨mode, found⟩ := opens.lookUp
  simp [FileSystem.leadsSomewhere, found, Except.toOption]

end Opens

/-- Going on by a name is walking along the path and then along the name. -/
theorem follow_nextPath {name : Text} (begun : path ≠ []) (plain : '/' ∉ name)
    (searchable : namesWorkingDirectory path → fs.isSearchableAt (startOf workingDirectory path)) (followLast : Bool)
    (more : List FileName) :
    fs.follow followLast linkLimit (startOf workingDirectory (nextPath path name))
        (Location.namesOf (nextPath path name) ++ more) =
      fs.follow followLast linkLimit (startOf workingDirectory path)
        (Location.namesOf path ++ Text.utf8 name :: more) := by
  cases named : namesWorkingDirectory path with
  | true =>
    have start : startOf workingDirectory path = workingDirectory :=
      if_neg (head?_ne_slash_of_namesWorkingDirectory named)
    have searchable := searchable named
    rw [start] at searchable ⊢
    rw [follow_idle_append searchable (Or.inl (by simp)) (Location.idle_of_namesWorkingDirectory named), nextPath,
      if_pos named, Location.namesOf_of_notMem plain, startOf, if_neg (head?_ne_of_notMem plain)]
    rfl
  | false =>
    obtain ⟨before, ends, goesOn⟩ := exists_nextPath_eq begun named
    have start : startOf workingDirectory (before ++ '/' :: name) = startOf workingDirectory path := by
      rcases ends with rfl | rfl
      · simp [startOf, List.head?_append_of_ne_nil _ begun]
      · cases before <;> rfl
    rw [goesOn name plain, start, Location.namesOf_append_cons, Location.namesOf_of_notMem plain, List.append_assoc]
    rcases ends with rfl | rfl
    · rfl
    · have ends : Location.namesOf (before ++ ['/']) = Location.namesOf before ++ [[]] :=
        Location.namesOf_append_cons before []
      rw [ends, List.append_assoc]
      exact (follow_append_nil_cons (List.cons_ne_nil _ _) _).symm

/-- From a path that opens a directory a walk goes on by one more name. -/
theorem Opens.follow_nextPath {links : Nat} {name : Text} (opens : fs.Opens workingDirectory path links location)
    (plain : '/' ∉ name) (followLast : Bool) (more : List FileName) :
    fs.follow followLast linkLimit (startOf workingDirectory (nextPath path name))
        (Location.namesOf (nextPath path name) ++ more) =
      fs.follow followLast links location (Text.utf8 name :: more) := by
  have begins (named : namesWorkingDirectory path) : fs.isSearchableAt (startOf workingDirectory path) := by
    obtain ⟨rest, names⟩ := Location.exists_namesOf_eq_self_cons named
    have arrives := opens.goesOn true [] (Or.inr rfl)
    rw [List.append_nil, follow_nil, names] at arrives
    exact isSearchableAt_of_follow (List.cons_ne_nil _ _) (Or.inr rfl) arrives
  exact (FileSystem.follow_nextPath opens.usable.nonempty plain begins followLast more).trans
    (opens.goesOn followLast _ (Or.inl (List.cons_ne_nil _ _)))

/-- A path that opens a directory opens the directories in it by their names. -/
theorem Opens.next {links : Nat} {name : Text} {mid : Location}
    (opens : fs.Opens workingDirectory path links location) (plain : '/' ∉ name)
    (usable : Usable (nextPath path name))
    (found : fs.follow true links location [Text.utf8 name] = .ok mid) (directory : fs.isDirectoryAt mid) :
    ∃ left, fs.Opens workingDirectory (nextPath path name) left mid ∧
      ∀ more, fs.follow true links location (Text.utf8 name :: more) = fs.follow true left mid more := by
  obtain ⟨left, goesOn⟩ := exists_follow_append found
  refine ⟨left, ⟨usable, directory, fun followLast more goes => ?_⟩, fun more => goesOn true more (Or.inr rfl)⟩
  exact (opens.follow_nextPath plain followLast more).trans (goesOn followLast more goes)

/-- A name that a walk takes to another place is the name of an entry. -/
theorem mem_namesIn_of_follow {links : Nat} {name : FileName} {mid : Location}
    (found : fs.follow true links location [name] = .ok mid) (nonempty : name ≠ [])
    (notSelf : name ≠ FileName.self) (notParent : name ≠ FileName.parent) : name ∈ fs.namesIn location := by
  obtain ⟨left, next, pushed, entered, -⟩ := exists_enter_of_follow_cons (Or.inr rfl) found
  rw [mem_namesIn]
  by_contra missing
  have absent : fs.entryAt (location ++ [name]) = none := by
    simpa [entryAt] using (Dictionary.get?_eq_none_iff _ _).mpr missing
  simp only [enter, nonempty, notSelf, notParent, absent, ↓reduceIte] at entered
  split_ifs at entered

/-- A name in a directory that leads to a directory is known to do so. -/
theorem Opens.isDirectoryIn {links left : Nat} {name : Text} {mid : Location}
    (opens : fs.Opens workingDirectory path links location)
    (next : fs.Opens workingDirectory (nextPath path name) left mid)
    (found : fs.follow true links location [Text.utf8 name] = .ok mid) (nonempty : Text.utf8 name ≠ [])
    (notSelf : Text.utf8 name ≠ FileName.self) (notParent : Text.utf8 name ≠ FileName.parent) :
    fs.isDirectoryIn workingDirectory path name := by
  obtain ⟨fewer, place, pushed, entered, arrived⟩ := exists_enter_of_follow_cons (Or.inr rfl) found
  unfold FileSystem.isDirectoryIn
  rw [opens.resolve]
  unfold enter at entered
  simp only [nonempty, notSelf, notParent, ↓reduceIte] at entered
  split_ifs at entered
  dsimp only
  cases stands : fs.entryAt (location ++ [Text.utf8 name]) with
  | none => simp [stands] at entered
  | some entry =>
    rw [stands] at entered
    cases entry with
    | link target => exact next.isDirectory
    | directory mode => rfl
    | file _ | sealedFile _ | socket =>
      -- the walk ends at the entry itself, which is no directory
      simp only [Except.ok.injEq, Prod.mk.injEq] at entered
      obtain ⟨-, rfl, rfl⟩ := entered
      rw [List.append_nil, follow_nil] at arrived
      obtain rfl := Except.ok.inj arrived
      have directory := next.directory
      simp [isDirectoryAt, stands, Entry.isDirectory] at directory

/-- The component of an escaped name is followed to that name alone, if the directory can be listed where the
name is no literal one. -/
theorem matching_escape_cons {links left : Nat} {name : Text} {mid : Location}
    (opens : fs.Opens workingDirectory path links location)
    (next : fs.Opens workingDirectory (nextPath path name) left mid)
    (found : fs.follow true links location [Text.utf8 name] = .ok mid) (patterns : List (List Wildcard)) :
    fs.matching workingDirectory (Wildcard.parse (Wildcard.escape name) :: patterns) true path =
      match if name.any Wildcard.isSpecial then fs.listingFault? workingDirectory path else none with
      | some fault => [.error ⟨path, fault⟩]
      | none => fs.matching workingDirectory patterns true (nextPath path name) := by
  rw [Wildcard.parse_escape, matching]
  cases special : name.any Wildcard.isSpecial with
  | false =>
    have kind := Wildcard.literal?_of_plain special
    simp [kind, next.leadsSomewhere, next.isDirectory]
  | true =>
    have kind := Wildcard.literal?_of_special special
    obtain ⟨c, member, special⟩ := List.any_eq_true.mp special
    have other (plain : Text) (dots : ∀ d ∈ plain, d = '.') : Text.utf8 name ≠ Text.utf8 plain := by
      intro same
      obtain rfl := dots c (Text.utf8_injective same ▸ member)
      cases special
    have nonempty := other [] (by simp)
    have notSelf := other ['.'] (by simp)
    have notParent := other ['.', '.'] (by simp)
    have listed : name ∈ fs.textNamesIn workingDirectory path :=
      mem_textNamesIn.mpr ⟨location, opens.resolve, mem_namesIn_of_follow found nonempty notSelf notParent⟩
    have only : (fs.textNamesIn workingDirectory path).filter
        (Wildcard.accepts (name.map Wildcard.ofChar)) = [name] := by
      refine List.perm_singleton.mp ((List.perm_ext_iff_of_nodup ?_ (List.nodup_singleton name)).mpr fun n => ?_)
      · exact (nodup_textNamesIn fs workingDirectory path).filter _
      · simp only [List.mem_filter, Wildcard.accepts_map_ofChar, List.mem_singleton, and_iff_right_iff_imp]
        rintro rfl
        exact listed
    have directory := opens.isDirectoryIn next found nonempty notSelf notParent
    cases readable : fs.listingFault? workingDirectory path with
    | some fault => simp [kind]
    | none => simp [kind, only, directory]

/-- The asterisk at the end of a pattern is followed to every entry, if the directory can be listed. -/
theorem matching_anyText (fs : FileSystem) (workingDirectory : Location) (path : Text) :
    fs.matching workingDirectory [[.anyText]] true path =
      match fs.listingFault? workingDirectory path with
      | some fault => [.error ⟨path, fault⟩]
      | none => (fs.textNamesIn workingDirectory path).map fun name => .ok (nextPath path name) := by
  have all : (fs.textNamesIn workingDirectory path).filter (Wildcard.accepts [.anyText]) =
      fs.textNamesIn workingDirectory path :=
    List.filter_eq_self.mpr fun name _ => Wildcard.accepts_anyText name
  simp only [matching, Wildcard.literal?, Bool.not_true, Bool.false_eq_true, ↓reduceIte, all]
  cases fs.listingFault? workingDirectory path with
  | some fault => rfl
  | none => exact List.map_eq_flatMap.symm

/-- Names by which one can go on from a path, one after the other, along paths that the system takes. -/
def Passable : Text → List Text → Prop
  | _, [] => True
  | path, name :: names => '/' ∉ name ∧ Usable (nextPath path name) ∧ Passable (nextPath path name) names

/-- The paths of the directories that are listed on the way along names: those in which a name with a special
character comes next, and the last one. -/
def listedAlong : Text → List Text → List Text
  | path, [] => [path]
  | path, name :: names =>
    if name.any Wildcard.isSpecial then path :: listedAlong (nextPath path name) names
    else listedAlong (nextPath path name) names

def firstFault? (fs : FileSystem) (workingDirectory : Location) (paths : List Text) : Option ListingFault :=
  paths.findSome? fun path => (fs.listingFault? workingDirectory path).map (ListingFault.mk path)

/-- A pattern of escaped names and an asterisk is followed along these names to every entry of the
directory to which they lead, or to the first directory that cannot be listed. -/
theorem matching_escape {names : List Text} {links : Nat} {final : Location}
    (opens : fs.Opens workingDirectory path links location) (passable : Passable path names)
    (found : fs.follow true links location (names.map Text.utf8) = .ok final)
    (directory : fs.isDirectoryAt final) :
    (∃ left, fs.Opens workingDirectory (names.foldl nextPath path) left final) ∧
      fs.matching workingDirectory (names.map (Wildcard.parse ∘ Wildcard.escape) ++ [[.anyText]]) true path =
        match fs.firstFault? workingDirectory (listedAlong path names) with
        | some fault => [.error fault]
        | none => (fs.textNamesIn workingDirectory (names.foldl nextPath path)).map fun name =>
          .ok (nextPath (names.foldl nextPath path) name) := by
  induction names generalizing path links location with
  | nil =>
    obtain rfl : location = final := by simpa using found
    refine ⟨⟨links, opens⟩, (matching_anyText fs workingDirectory path).trans ?_⟩
    cases barred : fs.listingFault? workingDirectory path <;> simp [firstFault?, listedAlong, barred]
  | cons name rest ih =>
    obtain ⟨plain, usable, passable⟩ := passable
    rw [List.map_cons] at found
    obtain ⟨mid, first⟩ := exists_follow_of_append [Text.utf8 name] (Or.inr rfl) found
    obtain ⟨left, goesOn⟩ := exists_follow_append first
    have onward : fs.follow true left mid (rest.map Text.utf8) = .ok final :=
      (goesOn true _ (Or.inr rfl)).symm.trans found
    have here : fs.isDirectoryAt mid := by
      cases rest with
      | nil =>
        obtain rfl : mid = final := by simpa using onward
        exact directory
      | cons name rest => exact isDirectoryAt_of_follow (List.cons_ne_nil _ _) onward
    obtain ⟨left, next, goesOn⟩ := opens.next plain usable first here
    obtain ⟨opened, matched⟩ := ih next passable ((goesOn _).symm.trans found)
    refine ⟨opened, ?_⟩
    rw [List.foldl_cons, List.map_cons, List.cons_append, Function.comp_apply,
      matching_escape_cons opens next first, matched, listedAlong]
    split_ifs with special
    · cases barred : fs.listingFault? workingDirectory path <;> simp [firstFault?, barred]
    · rfl

/-! ## The path of a directory -/

/-- The path that the listing of a directory has for the directory itself. -/
def listedPath (directory : Text) : Text :=
  match Text.dropTrailing '/' directory with
  | [] => "/"
  | '/' :: rest => (pieces '/' rest).foldl nextPath "/"
  | relative => (pieces '/' relative).foldl nextPath "."

/-- The path that the listing of a directory has for the entry with a name. -/
def childPath (directory name : Text) : Text := nextPath (listedPath directory) name

/-- The paths of the directories that are listed for a directory. Which they are depends on how it is spelled. -/
def listedPaths (directory : Text) : List Text :=
  match Text.dropTrailing '/' directory with
  | [] => listedAlong "/" []
  | '/' :: rest => listedAlong "/" (pieces '/' rest)
  | relative => listedAlong "." (pieces '/' relative)

/-- What keeps a directory from being listed, if anything does. -/
def barrier? (fs : FileSystem) (workingDirectory : Location) (directory : Text) : Option ListingFault :=
  fs.firstFault? workingDirectory (listedPaths directory)

/-- A part of a usable path is usable. -/
theorem Usable.of_sublist {part : Text} (usable : Usable path) (begun : part ≠ [])
    (within : part.Sublist path) : Usable part where
  noNul member := usable.noNul (within.subset member)
  nonempty := begun
  short := (Text.byteSize_le_of_sublist within).trans usable.short

/-- One can go on by names if the system takes the path that they spell. -/
theorem passable_of_sublist {name : Text} {rest : List Text} {whole : Text} (usable : Usable whole)
    (begun : path ≠ []) (within : (nextPath path name ++ rest.flatMap ('/' :: ·)).Sublist whole)
    (plain : ∀ n ∈ name :: rest, '/' ∉ n)
    (spelled : namesWorkingDirectory path = false ∨ path = ['.'] ∧ ¬ BeginEmpty (name :: rest)) :
    Passable path (name :: rest) := by
  induction rest generalizing path name with
  | nil =>
    have next := nextPath_begun begun (plain name (List.mem_singleton_self name)) spelled
    exact ⟨plain name (List.mem_singleton_self name), usable.of_sublist next.1 (by simpa using within), trivial⟩
  | cons other rest ih =>
    rw [List.forall_mem_cons] at plain
    have next := nextPath_begun begun plain.1 spelled
    have shorter : (nextPath (nextPath path name) other ++ rest.flatMap ('/' :: ·)).Sublist whole := by
      refine List.Sublist.trans ?_ within
      have one : (nextPath (nextPath path name) other).Sublist _ :=
        nextPath_sublist (plain.2 other List.mem_cons_self)
      simpa using one.append_right (rest.flatMap ('/' :: ·))
    exact ⟨plain.1, usable.of_sublist next.1 ((List.sublist_append_left _ _).trans within),
      ih next.1 shorter plain.2 next.2⟩

/-- One can go on by all the names of a text if the system takes the path that they spell. -/
theorem passable_pieces {t whole : Text} (usable : Usable whole) (begun : path ≠ [])
    (spells : ∀ name rest, '/' ∉ name → pieces '/' t = name :: rest →
      nextPath path name ++ rest.flatMap ('/' :: ·) = whole)
    (spelled : namesWorkingDirectory path = false ∨ path = ['.'] ∧ ¬ BeginEmpty (pieces '/' t)) :
    Passable path (pieces '/' t) := by
  have plain : ∀ name ∈ pieces '/' t, '/' ∉ name := fun _ => notMem_of_mem_pieces
  cases pieced : pieces '/' t with
  | nil => exact absurd pieced (pieces_ne_nil _ _)
  | cons name rest =>
    rw [pieced] at plain spelled
    have within := spells name rest (plain name List.mem_cons_self) pieced
    exact passable_of_sublist usable begun (within ▸ List.Sublist.refl _) plain spelled

theorem exists_resolve_of_isDirectory (isDirectory : fs.isDirectory workingDirectory path) :
    ∃ final, fs.resolve true workingDirectory path = .ok final ∧ fs.isDirectoryAt final := by
  unfold FileSystem.isDirectory at isDirectory
  split at isDirectory
  · next entry found =>
    obtain ⟨final, resolved, stands⟩ := lookUp_eq_ok_iff.mp found
    exact ⟨final, resolved, by rwa [isDirectoryAt, stands]⟩
  · cases isDirectory

/-- The way on which the listing comes to a directory: it begins where a path stands for the start, and goes
by names that the path of the directory is made of. -/
structure Trail (fs : FileSystem) (workingDirectory : Location) (directory base : Text) (start : Location)
    (names : List Text) (final : Location) : Prop where
  opens : fs.Opens workingDirectory base linkLimit start
  passable : Passable base names
  found : fs.follow true linkLimit start (names.map Text.utf8) = .ok final
  listed : listedPath directory = names.foldl nextPath base
  listings : listedPaths directory = listedAlong base names
  pattern : fs.pathsIn workingDirectory directory = fs.matching workingDirectory
    (names.map (Wildcard.parse ∘ Wildcard.escape) ++ [[.anyText]]) (fs.isDirectory workingDirectory base) base

/-- What remains of the path of a directory without the slashes at its end leads there as well. -/
theorem follow_dropTrailing {final : Location} (resolved : fs.resolve true workingDirectory directory = .ok final) :
    fs.follow true linkLimit (startOf workingDirectory directory)
      ((pieces '/' (Text.dropTrailing '/' directory)).map Text.utf8) = .ok final := by
  obtain ⟨n, whole⟩ := exists_dropTrailing_append '/' directory
  have names : Location.namesOf directory =
      (pieces '/' (Text.dropTrailing '/' directory)).map Text.utf8 ++ List.replicate n [] := by
    conv_lhs => rw [whole, Location.namesOf_append_replicate]
    rfl
  have found := (resolve_of_usable (usable_of_resolve resolved) fs true workingDirectory).symm.trans resolved
  rw [names] at found
  obtain ⟨mid, arrived⟩ := exists_follow_of_append _ (Or.inr rfl) found
  obtain ⟨left, goesOn⟩ := exists_follow_append arrived
  rw [goesOn true _ (Or.inr rfl)] at found
  rwa [follow_replicate_nil found]

theorem usable_dropTrailing (usable : Usable directory) (begun : Text.dropTrailing '/' directory ≠ []) :
    Usable (Text.dropTrailing '/' directory) := by
  obtain ⟨n, whole⟩ := exists_dropTrailing_append '/' directory
  refine usable.of_sublist begun ?_
  conv_rhs => rw [whole]
  exact List.sublist_append_left _ _

theorem opens_root (fs : FileSystem) (workingDirectory : Location) :
    fs.Opens workingDirectory ['/'] linkLimit [] := by
  refine ⟨⟨by decide, by decide, by decide⟩, rfl, fun followLast more goes => follow_append_of_enter goes ?_⟩
  intro name member
  obtain rfl : name = [] := by simpa [Location.namesOf, pieces] using member
  exact enter_nil rfl linkLimit

theorem opens_dot (begins : fs.isSearchableAt workingDirectory) :
    fs.Opens workingDirectory ['.'] linkLimit workingDirectory where
  usable := ⟨by decide, by decide, by decide⟩
  directory := isDirectoryAt_of_isSearchableAt begins
  goesOn _ _ goes := follow_idle_append begins goes (Location.idle_of_namesWorkingDirectory rfl)

/-- The way to the root directory, however many slashes stand for it. -/
theorem trail_of_slashes {final : Location} (resolved : fs.resolve true workingDirectory directory = .ok final)
    (trimmed : Text.dropTrailing '/' directory = []) :
    fs.Trail workingDirectory directory ['/'] [] [] final := by
  have start : startOf workingDirectory directory = [] :=
    if_pos (head?_of_dropTrailing_eq_nil (usable_of_resolve resolved).nonempty trimmed)
  have found := follow_dropTrailing resolved
  rw [trimmed, start] at found
  have final_eq : final = [] := follow_replicate_nil (n := 1) found
  refine ⟨opens_root fs workingDirectory, trivial, ?_, ?_, ?_, ?_⟩
  · rw [final_eq, List.map_nil, follow_nil]
  · rw [listedPath, trimmed]
    rfl
  · rw [listedPaths, trimmed]
    rfl
  · rw [pathsIn, listingPattern, trimmed]
    rfl

/-- The way along an absolute path. -/
theorem trail_of_absolute {final : Location} {rest : Text}
    (resolved : fs.resolve true workingDirectory directory = .ok final)
    (trimmed : Text.dropTrailing '/' directory = '/' :: rest) :
    fs.Trail workingDirectory directory ['/'] [] (pieces '/' rest) final := by
  have found : fs.follow true linkLimit [] ([[]] ++ (pieces '/' rest).map Text.utf8) = .ok final := by
    have found := follow_dropTrailing resolved
    rwa [trimmed, startOf, if_pos (head?_of_dropTrailing trimmed)] at found
  rw [follow_append_of_enter (Or.inr rfl) (List.forall_mem_singleton.mpr (enter_nil rfl linkLimit))] at found
  have usable := usable_dropTrailing (usable_of_resolve resolved) (by simp [trimmed])
  rw [trimmed] at usable
  have passable : Passable ['/'] (pieces '/' rest) := by
    refine passable_pieces usable (by simp) (fun name others plain pieced => ?_) (Or.inl rfl)
    rw [nextPath_root plain, List.cons_append, append_flatMap_of_pieces pieced]
  refine ⟨opens_root fs workingDirectory, passable, found, ?_, ?_, ?_⟩
  · rw [listedPath, trimmed]
    rfl
  · rw [listedPaths, trimmed]
    rfl
  · rw [← Wildcard.parse_pieces_escape, pathsIn, listingPattern, trimmed]
    rfl

/-- A path whose first names are a spelling of the working directory and then an empty one. -/
def OddlySpelled (directory : Text) : Prop :=
  directory.head? ≠ some '/' ∧ BeginEmpty (pieces '/' (Text.dropTrailing '/' directory))

theorem follow_of_relative {final : Location} {c : Char} {rest : Text}
    (resolved : fs.resolve true workingDirectory directory = .ok final)
    (trimmed : Text.dropTrailing '/' directory = c :: rest) (relative : c ≠ '/') :
    fs.follow true linkLimit workingDirectory ((pieces '/' (c :: rest)).map Text.utf8) = .ok final := by
  have found := follow_dropTrailing resolved
  rwa [trimmed, startOf, if_neg (by simp [head?_of_dropTrailing trimmed, relative])] at found

/-- What lies on the way along a relative path can only be found from a directory in which names may be looked up. -/
theorem isSearchableAt_of_relative {final : Location} {c : Char} {rest : Text} (relative : c ≠ '/')
    (found : fs.follow true linkLimit workingDirectory ((pieces '/' (c :: rest)).map Text.utf8) = .ok final) :
    fs.isSearchableAt workingDirectory := by
  obtain ⟨name, others, pieced⟩ := exists_pieces_cons relative rest
  rw [pieced, List.map_cons] at found
  have nonempty : Text.utf8 (c :: name) ≠ [] := fun empty => List.cons_ne_nil c name (Text.utf8_injective empty)
  exact isSearchableAt_of_follow nonempty (Or.inr rfl) found

theorem listedPath_of_relative {c : Char} {rest : Text} (trimmed : Text.dropTrailing '/' directory = c :: rest)
    (relative : c ≠ '/') : listedPath directory = (pieces '/' (c :: rest)).foldl nextPath ['.'] := by
  rw [listedPath, trimmed]
  split
  · next same => cases same
  · next same => exact absurd (List.cons.inj same).1 relative
  · rfl

theorem listedPaths_of_relative {c : Char} {rest : Text} (trimmed : Text.dropTrailing '/' directory = c :: rest)
    (relative : c ≠ '/') : listedPaths directory = listedAlong ['.'] (pieces '/' (c :: rest)) := by
  rw [listedPaths, trimmed]
  split
  · next same => cases same
  · next same => exact absurd (List.cons.inj same).1 relative
  · rfl

theorem pathsIn_of_relative {c : Char} {rest : Text} (trimmed : Text.dropTrailing '/' directory = c :: rest)
    (relative : c ≠ '/') :
    fs.pathsIn workingDirectory directory = fs.matching workingDirectory
      ((pieces '/' (c :: rest)).map (Wildcard.parse ∘ Wildcard.escape) ++ [[.anyText]])
        (fs.isDirectory workingDirectory ['.']) ['.'] := by
  rw [← Wildcard.parse_pieces_escape, pathsIn, listingPattern, trimmed]
  split
  · next same =>
    have start := Wildcard.head?_escape_append "/*" (List.cons_ne_nil c rest) (by simpa using relative)
    exact absurd (congrArg List.head? same) start
  · rfl

/-- The way along a relative path, unless it is oddly spelled. -/
theorem trail_of_relative {final : Location} {c : Char} {rest : Text}
    (resolved : fs.resolve true workingDirectory directory = .ok final)
    (trimmed : Text.dropTrailing '/' directory = c :: rest) (relative : c ≠ '/')
    (spelled : ¬ BeginEmpty (pieces '/' (c :: rest))) :
    fs.Trail workingDirectory directory ['.'] workingDirectory (pieces '/' (c :: rest)) final := by
  have found := follow_of_relative resolved trimmed relative
  have here := opens_dot (isSearchableAt_of_relative relative found)
  have usable := usable_dropTrailing (usable_of_resolve resolved) (by simp [trimmed])
  rw [trimmed] at usable
  have passable : Passable ['.'] (pieces '/' (c :: rest)) :=
    passable_pieces usable (by simp) (fun _ _ _ pieced => append_flatMap_of_pieces pieced)
      (Or.inr ⟨rfl, spelled⟩)
  exact ⟨here, passable, found, listedPath_of_relative trimmed relative, listedPaths_of_relative trimmed relative,
    pathsIn_of_relative trimmed relative⟩

/-- The listing comes to every directory whose path is not oddly spelled. -/
theorem exists_trail {final : Location} (resolved : fs.resolve true workingDirectory directory = .ok final)
    (spelled : ¬ OddlySpelled directory) :
    ∃ base start names, fs.Trail workingDirectory directory base start names final := by
  cases trimmed : Text.dropTrailing '/' directory with
  | nil => exact ⟨_, _, _, trail_of_slashes resolved trimmed⟩
  | cons c rest =>
    by_cases slash : c = '/'
    · exact ⟨_, _, _, trail_of_absolute resolved (slash ▸ trimmed)⟩
    · refine ⟨_, _, _, trail_of_relative resolved trimmed slash fun odd => spelled ⟨?_, trimmed ▸ odd⟩⟩
      simp [head?_of_dropTrailing trimmed, slash]

/-- The listing of a directory has a path for each of its entries that is a text, in byte order, or the first
directory that cannot be listed, unless the directory is oddly spelled. -/
theorem pathsIn_eq (isDirectory : fs.isDirectory workingDirectory directory)
    (spelled : ¬ OddlySpelled directory) :
    fs.pathsIn workingDirectory directory =
      match fs.barrier? workingDirectory directory with
      | some fault => [.error fault]
      | none => (fs.textNamesIn workingDirectory directory).map (.ok ∘ childPath directory) := by
  obtain ⟨final, resolved, here⟩ := exists_resolve_of_isDirectory isDirectory
  obtain ⟨base, start, names, trail⟩ := exists_trail resolved spelled
  obtain ⟨⟨left, opens⟩, matched⟩ := matching_escape trail.opens trail.passable trail.found here
  have childPaths : childPath directory = nextPath (names.foldl nextPath base) := by
    funext name
    rw [childPath, trail.listed]
  rw [trail.pattern, trail.opens.isDirectory, matched, barrier?, trail.listings, childPaths,
    textNamesIn_of_resolve opens.resolve, textNamesIn_of_resolve resolved]
  rfl

end FileSystem

end FillInStory
