import FillInStory.Proofs.ByteOrder
import FillInStory.Proofs.Listing
import Mathlib.Data.List.Forall2
import Mathlib.Data.List.Perm.Basic

/-! # The files of a directory come in one order

The paths of the regular files of a directory are sorted after they have been found, so they come in
byte order of their names in whatever order they were listed (`value_filesIn`). And what is listed depends
on the entries of the file system alone and not on their order (`filesIn_of_perm`).
-/

namespace FillInStory

namespace FileSystem

variable {fs : FileSystem} {workingDirectory : Location} {directory : Text}

theorem pairwise_textNamesIn (fs : FileSystem) (workingDirectory : Location) (directory : Text) :
    (fs.textNamesIn workingDirectory directory).Pairwise fun a b =>
      FileName.le (Text.utf8 a) (Text.utf8 b) := by
  unfold textNamesIn
  cases fs.resolve true workingDirectory directory with
  | error fault => exact List.Pairwise.nil
  | ok location =>
    refine List.pairwise_filterMap.mpr ((FileName.pairwise_mergeSort _).imp fun before a first b second => ?_)
    rw [Text.ofUtf8?_eq_some_iff] at first second
    rwa [first, second]

/-- The names are in byte order, each once. -/
theorem sorted_textNamesIn (fs : FileSystem) (workingDirectory : Location) (directory : Text) :
    (fs.textNamesIn workingDirectory directory).Pairwise fun a b =>
      FileName.le (Text.utf8 a) (Text.utf8 b) ∧ a ≠ b :=
  (pairwise_textNamesIn fs workingDirectory directory).and (nodup_textNamesIn fs workingDirectory directory)

/-- Which of the children of a directory are of some kind is found by trying each. -/
theorem mem_iff_of_children {children names : List Text} {kind : Text → Prop}
    (hasChild : ∀ name, fs.HasChild workingDirectory directory name ↔ name ∈ children)
    (within : ∀ name ∈ names, name ∈ children) (kept : ∀ name ∈ children, name ∈ names ↔ kind name) (name : Text) :
    name ∈ names ↔ fs.HasChild workingDirectory directory name ∧ kind name := by
  rw [hasChild]
  exact ⟨fun member => ⟨within name member, (kept name (within name member)).mp member⟩,
    fun ⟨member, holds⟩ => (kept name member).mpr holds⟩

/-- Whether the listing of a directory has one path for each entry whose name is a text, in any order, and nothing
else. -/
def Lists (fs : FileSystem) (workingDirectory : Location) (directory : Text) : Prop :=
  (fs.pathsIn workingDirectory directory).Perm
    ((fs.textNamesIn workingDirectory directory).map (.ok ∘ childPath directory))

theorem lists_of_isDirectory (isDirectory : fs.isDirectory workingDirectory directory)
    (spelled : ¬ OddlySpelled directory) (unbarred : fs.barrier? workingDirectory directory = none) :
    fs.Lists workingDirectory directory := by
  unfold Lists
  rw [pathsIn_eq isDirectory spelled, unbarred]

theorem Lists.exists_paths (lists : fs.Lists workingDirectory directory) :
    ∃ paths : List Text, fs.pathsIn workingDirectory directory = paths.map .ok ∧
      paths.Perm ((fs.textNamesIn workingDirectory directory).map (childPath directory)) := by
  unfold Lists at lists
  rw [← List.map_map] at lists
  exact (congrFun₂ (List.eq_map_comp_perm Except.ok) _ _).mpr lists

/-- What is found is divided into the regular files, which are kept, and the other entries, which are reported. -/
theorem keepFiles_map_ok (fs : FileSystem) (workingDirectory : Location) (directory : Text) (paths : List Text) :
    fs.keepFiles workingDirectory directory (paths.map .ok) =
      ⟨.ok (paths.filter (fs.isFile workingDirectory)),
        (paths.filter fun path => !fs.isFile workingDirectory path).map notRegular⟩ := by
  induction paths with
  | nil => rfl
  | cons path paths ih =>
    rw [List.map_cons, keepFiles, ih]
    cases file : fs.isFile workingDirectory path with
    | true =>
      rw [List.filter_cons_of_pos file, List.filter_cons_of_neg (by simp [file])]
      exact congrArg (Logged.mk _) (List.append_nil _)
    | false =>
      rw [List.filter_cons_of_neg (by simp [file]), List.filter_cons_of_pos (by simp [file])]
      rfl

theorem filesIn_of_paths {paths : List Text} (found : fs.pathsIn workingDirectory directory = paths.map .ok) :
    fs.filesIn workingDirectory directory =
      ⟨.ok ((paths.filter (fs.isFile workingDirectory)).mergeSort PathPart.lePath),
        (paths.filter fun path => !fs.isFile workingDirectory path).map notRegular⟩ := by
  rw [filesIn, found, keepFiles_map_ok]
  exact congrArg (Logged.mk _) (List.append_nil _)

/-- A directory that cannot be listed ends the listing with an error and a record about it. -/
theorem filesIn_of_fault {fault : ListingFault} (found : fs.pathsIn workingDirectory directory = [.error fault]) :
    fs.filesIn workingDirectory directory =
      ⟨.error (inaccessible directory fault), [⟨.error, .requests, inaccessible directory fault⟩]⟩ := by
  rw [filesIn, found]
  rfl

/-- Paths of entries, sorted, are the paths of the sorted names. -/
theorem mergeSort_eq_map_childPath {paths names : List Text}
    (listed : paths.Perm (names.map (childPath directory)))
    (proper : ∀ name ∈ names, FileName.Proper (Text.utf8 name))
    (sorted : names.Pairwise fun a b => FileName.le (Text.utf8 a) (Text.utf8 b)) :
    paths.mergeSort PathPart.lePath = names.map (childPath directory) := by
  obtain ⟨found, rfl, same⟩ := (congrFun₂ (List.eq_map_comp_perm (childPath directory)) paths names).mpr listed
  have order (a) (first : a ∈ found) (b) (second : b ∈ found) :
      FileName.le (Text.utf8 a) (Text.utf8 b) =
        PathPart.lePath (childPath directory a) (childPath directory b) :=
    (PathPart.lePath_nextPath _ (proper a (same.subset first)) (proper b (same.subset second))).symm
  rw [← List.map_mergeSort order]
  congr 1
  refine List.Perm.eq_of_pairwise ?_ ?_ sorted ((List.mergeSort_perm _ _).trans same)
  · exact fun _ _ _ _ first second => Text.utf8_injective (FileName.le_antisymm first second)
  · exact Text.pairwise_mergeSort found

/-- Whether the entries of a directory have proper names, so far as these are texts. -/
def WellNamed (fs : FileSystem) (workingDirectory : Location) (directory : Text) : Prop :=
  ∀ name, fs.HasChild workingDirectory directory name → FileName.Proper (Text.utf8 name)

/-- The regular files of a directory are found by their names, in byte order. -/
theorem value_filesIn (lists : fs.Lists workingDirectory directory)
    (wellNamed : fs.WellNamed workingDirectory directory) :
    (fs.filesIn workingDirectory directory).value =
      .ok (((fs.textNamesIn workingDirectory directory).filter
        (fs.isFile workingDirectory ∘ childPath directory)).map (childPath directory)) := by
  obtain ⟨paths, found, same⟩ := lists.exists_paths
  have files := same.filter (fs.isFile workingDirectory)
  rw [List.filter_map] at files
  rw [filesIn_of_paths found]
  refine congrArg Except.ok (mergeSort_eq_map_childPath files (fun name member => ?_) ?_)
  · exact wellNamed name (mem_textNamesIn.mp (List.mem_of_mem_filter member))
  · exact (pairwise_textNamesIn fs workingDirectory directory).filter _

/-! ## Independence of the order of the entries -/

section

variable {other : FileSystem} (same : other.Rearranges fs)
include same

theorem textNamesIn_of_perm : other.textNamesIn = fs.textNamesIn := by
  funext workingDirectory path
  have names (location : Location) : (other.namesIn location).Perm (fs.namesIn location) :=
    (same.entries.map Prod.fst).filterMap _
  simp only [textNamesIn, resolve_of_perm same, fun location => FileName.mergeSort_eq_of_perm (names location)]

theorem matching_of_perm : other.matching = fs.matching := by
  have faults : other.listingFault? = fs.listingFault? := by
    funext workingDirectory path
    simp only [listingFault?, lookUp_of_perm same]
  have directories : other.isDirectoryIn = fs.isDirectoryIn := by
    funext workingDirectory path name
    simp only [isDirectoryIn, resolve_of_perm same, entryAt_of_perm same, isDirectory_of_perm same]
  funext workingDirectory patterns isDirectory path
  induction patterns generalizing isDirectory path with
  | nil => rfl
  | cons pattern patterns ih =>
    simp only [matching, isDirectory_of_perm same, leadsSomewhere_of_perm same, isPresent_of_perm same,
      textNamesIn_of_perm same, faults, directories, ih]

/-- What is found in a directory, and what is reported on the way, does not depend on the order of the
entries. -/
theorem filesIn_of_perm : other.filesIn = fs.filesIn := by
  funext workingDirectory directory
  have kept (found : List (Except ListingFault Text)) : other.keepFiles workingDirectory directory found =
      fs.keepFiles workingDirectory directory found := by
    induction found with
    | nil => rfl
    | cons first found ih => cases first <;> simp only [keepFiles, isFile_of_perm same, ih]
  simp only [filesIn, pathsIn, matching_of_perm same, isDirectory_of_perm same, kept]

end

end FileSystem

end FillInStory
