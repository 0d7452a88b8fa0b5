import FillInStory.Proofs.DirectoryFiles

/-! # The listing of a directory names the directory's own files

However a directory is spelled, the path that the listing has for it opens it: the names that only stand for
the place where the path begins go, and the other ones are followed as they are written
(`exists_opens_listedPath`). So the path that the listing has for a file names an entry of that very directory,
and no other one whose name a pattern of the same spelling would stand for. That makes the listing exactly the
files of the directory, or an error if a directory that it has to go through cannot be listed, and nothing else has
any influence on it, unless the directory is oddly spelled: then the pattern leads nowhere and nothing is listed,
whatever is there (`filesIn_literal`).
-/

namespace FillInStory.FileSystem

variable {fs : FileSystem} {workingDirectory location final : Location} {directory : Text}

/-! ## The path of a directory opens it -/

theorem Trail.exists_opens {base : Text} {start : Location} {names : List Text}
    (trail : fs.Trail workingDirectory directory base start names final) (here : fs.isDirectoryAt final) :
    ∃ left, fs.Opens workingDirectory (listedPath directory) left final :=
  trail.listed ▸ (matching_escape trail.opens trail.passable trail.found here).1

/-- The listing's path for a relative directory goes on from a dot by the names that remain without the idle
ones at the front. -/
theorem exists_opens_of_relative {c : Char} {rest : Text}
    (resolved : fs.resolve true workingDirectory directory = .ok final) (here : fs.isDirectoryAt final)
    (trimmed : Text.dropTrailing '/' directory = c :: rest) (relative : c ≠ '/') :
    ∃ left, fs.Opens workingDirectory (listedPath directory) left final := by
  have found := follow_of_relative resolved trimmed relative
  have begins := isSearchableAt_of_relative relative found
  have usable := usable_dropTrailing (usable_of_resolve resolved) (by simp [trimmed])
  have ends := getLast?_dropTrailing_ne '/' directory
  rw [trimmed] at usable ends
  obtain ⟨idle, name, others, pieced, each, begun⟩ :=
    exists_idle_append (pieces_ne_nil '/' (c :: rest)) (getLast?_pieces_ne (List.cons_ne_nil c rest) ends)
  have plain : ∀ n ∈ name :: others, '/' ∉ n := by
    intro n member
    exact notMem_of_mem_pieces (pieced ▸ List.mem_append_right idle member)
  have within : (nextPath ['.'] name ++ others.flatMap ('/' :: ·)).Sublist (c :: rest) :=
    (suffix_of_pieces pieced).sublist
  have passable : Passable ['.'] (name :: others) :=
    passable_of_sublist usable (List.cons_ne_nil _ _) within plain (Or.inr ⟨rfl, begun⟩)
  -- the idle names move neither the walk nor the path
  have stays : ∀ n ∈ idle.map Text.utf8, n = [] ∨ n = FileName.self :=
    List.forall_mem_map.mpr fun n member => (each n member).imp (congrArg Text.utf8) (congrArg Text.utf8)
  rw [pieced, List.map_append, follow_idle_append begins (Or.inr rfl) stays] at found
  rw [listedPath_of_relative trimmed relative, pieced,
    foldl_nextPath_idle_append each (Or.inr rfl) (plain name List.mem_cons_self)]
  exact (matching_escape (opens_dot begins) passable found here).1

/-- The path that the listing has for a directory opens that directory, however it is spelled. -/
theorem exists_opens_listedPath (resolved : fs.resolve true workingDirectory directory = .ok final)
    (here : fs.isDirectoryAt final) : ∃ left, fs.Opens workingDirectory (listedPath directory) left final := by
  cases trimmed : Text.dropTrailing '/' directory with
  | nil => exact (trail_of_slashes resolved trimmed).exists_opens here
  | cons c rest =>
    by_cases slash : c = '/'
    · subst slash
      exact (trail_of_absolute resolved trimmed).exists_opens here
    · exact exists_opens_of_relative resolved here trimmed slash

/-! ## The path of a file names an entry of the directory -/

/-- A name of an entry leads to this entry when a link in its place is left alone. -/
theorem follow_false_name {links : Nat} {name : FileName} (searchable : fs.isSearchableAt location)
    (proper : name.Proper) (short : name.length ≤ nameLimit) (present : name ∈ fs.namesIn location) :
    fs.follow false links location [name] = .ok (location ++ [name]) := by
  obtain ⟨entry, found⟩ : ∃ entry, fs.entryAt (location ++ [name]) = some entry := by
    rw [← Option.ne_none_iff_exists']
    simpa [entryAt, Dictionary.get?_eq_none_iff] using mem_namesIn.mp present
  have here := isDirectoryAt_of_isSearchableAt searchable
  have long : ¬ nameLimit < name.length := by omega
  cases links <;>
    cases entry <;>
      simp [follow, walk, here, searchable, proper.nonempty, proper.notSelf, proper.notParent, long, found]

/-- A walk that takes a name finds it no longer than a name may be. -/
theorem length_le_of_follow_name {links : Nat} {name : FileName} (proper : name.Proper)
    (found : fs.follow true links location [name] = .ok final) : name.length ≤ nameLimit := by
  obtain ⟨left, next, pushed, entered, -⟩ := exists_enter_of_follow_cons (Or.inr rfl) found
  by_contra long
  simp only [enter, proper.nonempty, proper.notSelf, proper.notParent, ↓reduceIte] at entered
  split_ifs at entered
  omega

theorem exists_resolve_of_isFile {path : Text} (file : fs.isFile workingDirectory path) :
    ∃ target, fs.resolve true workingDirectory path = .ok target := by
  unfold isFile at file
  split at file
  · next entry found =>
    obtain ⟨target, resolved, -⟩ := lookUp_eq_ok_iff.mp found
    exact ⟨target, resolved⟩
  · cases file

/-- The path that the listing has for a file of a directory names the entry of that directory itself. -/
theorem resolve_childPath (resolved : fs.resolve true workingDirectory directory = .ok location)
    (here : fs.isDirectoryAt location) {name : Text} (proper : FileName.Proper (Text.utf8 name))
    (present : Text.utf8 name ∈ fs.namesIn location)
    (file : fs.isFile workingDirectory (childPath directory name)) :
    fs.resolve false workingDirectory (childPath directory name) = .ok (location ++ [Text.utf8 name]) := by
  obtain ⟨left, opens⟩ := exists_opens_listedPath resolved here
  obtain ⟨target, arrives⟩ := exists_resolve_of_isFile file
  have usable := usable_of_resolve arrives
  have goesOn (followLast : Bool) : fs.resolve followLast workingDirectory (childPath directory name) =
      fs.follow followLast left location [Text.utf8 name] := by
    rw [resolve_of_usable usable]
    simpa [childPath] using opens.follow_nextPath proper.slash_notMem followLast []
  rw [goesOn] at arrives ⊢
  have searchable := isSearchableAt_of_follow proper.nonempty (Or.inr rfl) arrives
  exact follow_false_name searchable proper (length_le_of_follow_name proper arrives) present

/-! ## What is listed -/

theorem resolve_nil (fs : FileSystem) (followLast : Bool) (workingDirectory : Location) :
    fs.resolve followLast workingDirectory [] = .error .notFound := rfl

/-- From a dot nothing is found by a pattern that begins with an empty name: the path is then empty. -/
theorem matching_of_beginEmpty {names : List Text} (odd : BeginEmpty names) (patterns : List (List Wildcard))
    (isDirectory : Bool) :
    fs.matching workingDirectory (names.map (Wildcard.parse ∘ Wildcard.escape) ++ patterns) isDirectory ['.'] = [] := by
  induction names generalizing isDirectory with
  | nil => cases odd
  | cons name rest ih =>
    rw [List.map_cons, List.cons_append, Function.comp_apply, matching]
    by_cases dot : name = ['.']
    · subst dot
      have literal : Wildcard.literal? (Wildcard.parse (Wildcard.escape ['.'])) = some ['.'] := rfl
      have stays : nextPath ['.'] ['.'] = ['.'] := rfl
      simp [literal, stays, ih odd]
    · obtain rfl : name = [] := by simpa [BeginEmpty, dot] using odd
      have literal : Wildcard.literal? (Wildcard.parse (Wildcard.escape [])) = some [] := rfl
      have empty : nextPath ['.'] [] = [] := rfl
      simp [literal, empty, leadsSomewhere, isPresent, lookUp, resolve_nil, Except.bind, Except.toOption]

/-- The pattern of an oddly spelled directory leads nowhere. -/
theorem pathsIn_of_oddlySpelled (begun : directory ≠ []) (odd : OddlySpelled directory) :
    fs.pathsIn workingDirectory directory = [] := by
  cases trimmed : Text.dropTrailing '/' directory with
  | nil => exact absurd (head?_of_dropTrailing_eq_nil begun trimmed) odd.1
  | cons c rest =>
    have relative : c ≠ '/' := by
      rintro rfl
      exact odd.1 (head?_of_dropTrailing trimmed)
    rw [pathsIn_of_relative trimmed relative]
    exact matching_of_beginEmpty (trimmed ▸ odd.2) _ _

/-- Nothing is listed for an oddly spelled directory, and nothing is said about it. -/
theorem filesIn_of_oddlySpelled (begun : directory ≠ []) (odd : OddlySpelled directory) :
    fs.filesIn workingDirectory directory = ⟨.ok [], []⟩ := by
  have found : fs.pathsIn workingDirectory directory = ([] : List Text).map .ok := pathsIn_of_oddlySpelled begun odd
  exact (filesIn_of_paths found).trans (by simp)

/-- The listing of a directory ends at the first of the directories to be listed that cannot be. -/
theorem filesIn_of_barrier {fault : ListingFault} (isDirectory : fs.isDirectory workingDirectory directory)
    (spelled : ¬ OddlySpelled directory) (barred : fs.barrier? workingDirectory directory = some fault) :
    fs.filesIn workingDirectory directory =
      ⟨.error (inaccessible directory fault), [⟨.error, .requests, inaccessible directory fault⟩]⟩ :=
  filesIn_of_fault (by rw [pathsIn_eq isDirectory spelled, barred])

/-- The names of the files of a directory: of its entries with a text for a name, those that are regular files
after following links, in byte order. -/
structure ChildFiles (fs : FileSystem) (workingDirectory : Location) (directory : Text) (names : List Text) :
    Prop where
  sorted : names.Pairwise fun a b => FileName.le (Text.utf8 a) (Text.utf8 b) ∧ a ≠ b
  mem_iff : ∀ name, name ∈ names ↔
    fs.HasChild workingDirectory directory name ∧ fs.isFile workingDirectory (childPath directory name)

/-- A directory has one list of files. -/
theorem ChildFiles.unique {names others : List Text} (first : fs.ChildFiles workingDirectory directory names)
    (second : fs.ChildFiles workingDirectory directory others) : names = others :=
  Text.eq_of_sorted first.sorted second.sorted fun name => (first.mem_iff name).trans (second.mem_iff name).symm

theorem childFiles_textNamesIn (fs : FileSystem) (workingDirectory : Location) (directory : Text) :
    fs.ChildFiles workingDirectory directory ((fs.textNamesIn workingDirectory directory).filter
      (fs.isFile workingDirectory ∘ childPath directory)) where
  sorted := (sorted_textNamesIn fs workingDirectory directory).filter _
  mem_iff name := by simp only [List.mem_filter, mem_textNamesIn, Function.comp_apply]

/-- The files of a directory are listed by the paths of their names, unless the directory is oddly spelled or cannot
be listed. -/
theorem ChildFiles.value_filesIn {names : List Text} (files : fs.ChildFiles workingDirectory directory names)
    (isDirectory : fs.isDirectory workingDirectory directory) (wellNamed : fs.WellNamed workingDirectory directory)
    (spelled : ¬ OddlySpelled directory) (unbarred : fs.barrier? workingDirectory directory = none) :
    (fs.filesIn workingDirectory directory).value = .ok (names.map (childPath directory)) := by
  rw [FileSystem.value_filesIn (lists_of_isDirectory isDirectory spelled unbarred) wellNamed]
  rw [files.unique (childFiles_textNamesIn fs workingDirectory directory)]

/-- Whether another file system has the same in a directory: entries with the same names, of which the same are
regular files, and directories that can be listed alike where one has to be. -/
structure AgreesIn (fs other : FileSystem) (workingDirectory : Location) (directory : Text) : Prop where
  isDirectory : other.isDirectory workingDirectory directory = fs.isDirectory workingDirectory directory
  hasChild_iff : ∀ name, other.HasChild workingDirectory directory name ↔
    fs.HasChild workingDirectory directory name
  isFile_eq : ∀ name, fs.HasChild workingDirectory directory name →
    other.isFile workingDirectory (childPath directory name) = fs.isFile workingDirectory (childPath directory name)
  listingFault?_eq : ∀ path ∈ listedPaths directory,
    other.listingFault? workingDirectory path = fs.listingFault? workingDirectory path

theorem AgreesIn.barrier?_eq {other : FileSystem} (agrees : fs.AgreesIn other workingDirectory directory) :
    other.barrier? workingDirectory directory = fs.barrier? workingDirectory directory := by
  unfold barrier? firstFault?
  rw [← List.head?_filterMap, ← List.head?_filterMap]
  refine congrArg List.head? (List.filterMap_congr fun path member => ?_)
  rw [agrees.listingFault?_eq path member]

theorem AgreesIn.childFiles {other : FileSystem} {names : List Text}
    (agrees : fs.AgreesIn other workingDirectory directory) (files : fs.ChildFiles workingDirectory directory names) :
    other.ChildFiles workingDirectory directory names where
  sorted := files.sorted
  mem_iff name := by
    rw [files.mem_iff, agrees.hasChild_iff]
    exact and_congr_right fun child => by rw [agrees.isFile_eq name child]

theorem AgreesIn.wellNamed {other : FileSystem} (agrees : fs.AgreesIn other workingDirectory directory)
    (wellNamed : fs.WellNamed workingDirectory directory) : other.WellNamed workingDirectory directory :=
  fun name child => wellNamed name ((agrees.hasChild_iff name).mp child)

/-- What is listed for a directory are its own files, each once and in byte order of the names, and what is
elsewhere has no influence on that. If the directory itself cannot be listed, or one above a name with a special
character, then there is an error in place of the files, and one record of it. For an oddly spelled directory
nothing is listed. -/
theorem filesIn_literal (isDirectory : fs.isDirectory workingDirectory directory)
    (wellNamed : fs.WellNamed workingDirectory directory) :
    ∃ location names, fs.resolve true workingDirectory directory = .ok location ∧
      fs.ChildFiles workingDirectory directory names ∧
      (∀ name ∈ names, fs.resolve false workingDirectory (childPath directory name) =
        .ok (location ++ [Text.utf8 name])) ∧
      (names.map (childPath directory)).Nodup ∧
      (¬ OddlySpelled directory → fs.barrier? workingDirectory directory = none →
        (fs.filesIn workingDirectory directory).value = .ok (names.map (childPath directory))) ∧
      (¬ OddlySpelled directory → ∀ fault, fs.barrier? workingDirectory directory = some fault →
        fs.filesIn workingDirectory directory =
          ⟨.error (inaccessible directory fault), [⟨.error, .requests, inaccessible directory fault⟩]⟩) ∧
      (OddlySpelled directory → fs.filesIn workingDirectory directory = ⟨.ok [], []⟩) ∧
      ∀ other, fs.AgreesIn other workingDirectory directory →
        (other.filesIn workingDirectory directory).value = (fs.filesIn workingDirectory directory).value := by
  obtain ⟨location, resolved, here⟩ := exists_resolve_of_isDirectory isDirectory
  have files := childFiles_textNamesIn fs workingDirectory directory
  generalize (fs.textNamesIn workingDirectory directory).filter _ = names at files
  have entries (name : Text) (member : name ∈ names) :
      fs.resolve false workingDirectory (childPath directory name) = .ok (location ++ [Text.utf8 name]) := by
    obtain ⟨child, file⟩ := (files.mem_iff name).mp member
    have proper := wellNamed name child
    obtain ⟨place, found, present⟩ := child
    obtain rfl : location = place := Except.ok.inj (resolved.symm.trans found)
    exact resolve_childPath resolved here proper present file
  have begun : directory ≠ [] := (usable_of_resolve resolved).nonempty
  refine ⟨location, names, resolved, files, entries, ?_, files.value_filesIn isDirectory wellNamed,
    fun spelled fault => filesIn_of_barrier isDirectory spelled, filesIn_of_oddlySpelled begun, fun other agrees => ?_⟩
  · refine List.Nodup.map_on (fun a first b second same => ?_) (files.sorted.imp And.right)
    have names := Except.ok.inj ((entries a first).symm.trans (same ▸ entries b second))
    exact Text.utf8_injective (by simpa using names)
  · have otherwise := agrees.isDirectory.trans isDirectory
    by_cases odd : OddlySpelled directory
    · rw [filesIn_of_oddlySpelled begun odd, filesIn_of_oddlySpelled begun odd]
    cases barred : fs.barrier? workingDirectory directory with
    | some fault =>
      rw [filesIn_of_barrier isDirectory odd barred, filesIn_of_barrier otherwise odd (agrees.barrier?_eq.trans barred)]
    | none =>
      rw [files.value_filesIn isDirectory wellNamed odd barred]
      exact (agrees.childFiles files).value_filesIn otherwise (agrees.wellNamed wellNamed) odd
        (agrees.barrier?_eq.trans barred)

/-- A directory `[s]*` with a file, a link to a file of the directory `s` and a directory with a file in it. -/
def starred : FileSystem :=
  let odd : Location := [Text.utf8 "[s]*"]
  let s : Location := [Text.utf8 "s"]
  ((((((FileSystem.empty.put odd (.directory 0o755)).put s (.directory 0o755)).put
    (s ++ [Text.utf8 "x"]) (.file [])).put (odd ++ [Text.utf8 "b"]) (.file [])).put
    (odd ++ [Text.utf8 ".a"]) (.link (Text.utf8 "../s/x"))).put (odd ++ [Text.utf8 "c"]) (.directory 0o755)).put
    (odd ++ [Text.utf8 "c", Text.utf8 "d"]) (.file [])

def starredNames : List Text := ["b", ".a", "c"]

theorem hasChild_starred (name : Text) : starred.HasChild [] "[s]*//" name ↔ name ∈ starredNames := by
  have names : starred.namesIn [Text.utf8 "[s]*"] = starredNames.map Text.utf8 := by decide
  exact hasChild_iff_mem rfl names name

theorem wellNamed_starred : starred.WellNamed [] "[s]*//" := by
  intro name child
  have each : ∀ n ∈ starredNames, FileName.Proper (Text.utf8 n) := by decide
  exact each name ((hasChild_starred name).mp child)

theorem childFiles_starred : starred.ChildFiles [] "[s]*//" [".a".toList, "b".toList] where
  sorted := by decide
  mem_iff := mem_iff_of_children hasChild_starred (by decide) (by decide +kernel)

/-- The files of `[s]*` are listed, and not those of `s`, for which the brackets and the asterisk would stand. -/
theorem filesIn_literal_starred :
    starred.isDirectory [] "[s]*//" ∧ starred.WellNamed [] "[s]*//" ∧ ¬ OddlySpelled "[s]*//" ∧
      starred.barrier? [] "[s]*//" = none ∧
      (starred.filesIn [] "[s]*//").value = .ok ["[s]*/.a".toList, "[s]*/b".toList] := by
  have isDirectory : starred.isDirectory [] "[s]*//" := rfl
  have spelled : ¬ OddlySpelled "[s]*//" := fun odd => nomatch odd.2
  have unbarred : starred.barrier? [] "[s]*//" = none := by decide +kernel
  obtain ⟨location, names, -, files, -, -, listed, -⟩ := filesIn_literal isDirectory wellNamed_starred
  obtain rfl := files.unique childFiles_starred
  exact ⟨isDirectory, wellNamed_starred, spelled, unbarred, (listed spelled unbarred).trans rfl⟩

/-- A directory `d` with one file. -/
def lone : FileSystem :=
  (FileSystem.empty.put [Text.utf8 "d"] (.directory 0o755)).put [Text.utf8 "d", Text.utf8 "a"] (.file [])

/-- The file of `d` is not listed for `.//d`, although the path leads to the directory. -/
theorem filesIn_not_literal_lone :
    lone.isDirectory [] ".//d" ∧ lone.HasChild [] ".//d" "a" ∧ lone.isFile [] (childPath ".//d" "a") ∧
      lone.filesIn [] ".//d" = ⟨.ok [], []⟩ ∧
      ¬ ∀ (fs : FileSystem) (workingDirectory : Location) (directory : Text),
        fs.isDirectory workingDirectory directory → fs.WellNamed workingDirectory directory →
          ∃ names, fs.ChildFiles workingDirectory directory names ∧
            (fs.filesIn workingDirectory directory).value = .ok (names.map (childPath directory)) := by
  have isDirectory : lone.isDirectory [] ".//d" := rfl
  have children (name : Text) : lone.HasChild [] ".//d" name ↔ name ∈ (["a".toList] : List Text) := by
    have names : lone.namesIn [Text.utf8 "d"] = (["a".toList] : List Text).map Text.utf8 := by decide
    exact hasChild_iff_mem rfl names name
  have child : lone.HasChild [] ".//d" "a" := (children _).mpr (List.mem_singleton_self _)
  have file : lone.isFile [] (childPath ".//d" "a") := rfl
  have nothing : lone.filesIn [] ".//d" = ⟨.ok [], []⟩ := filesIn_of_oddlySpelled (by decide) ⟨by decide, rfl⟩
  refine ⟨isDirectory, child, file, nothing, fun claim => ?_⟩
  have wellNamed : lone.WellNamed [] ".//d" := by
    intro name member
    obtain rfl := List.mem_singleton.mp ((children name).mp member)
    decide
  obtain ⟨names, files, listed⟩ := claim lone [] ".//d" isDirectory wellNamed
  rw [nothing] at listed
  obtain rfl : names = [] := List.map_eq_nil_iff.mp (Except.ok.inj listed).symm
  exact absurd ((files.mem_iff "a").mpr ⟨child, file⟩) List.not_mem_nil

end FillInStory.FileSystem
