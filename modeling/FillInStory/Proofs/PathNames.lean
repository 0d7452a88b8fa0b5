import FillInStory.Files.Listing
import FillInStory.Proofs.Utf8
import Mathlib.Data.List.Basic
import Mathlib.Data.List.TakeWhile
import Mathlib.Tactic.MkIffOfInductiveProp
import Mathlib.Tactic.SplitIfs

/-! # Paths that go on by a name

A path goes on by a name behind a slash, unless it only says where to begin (`exists_nextPath_eq`). So the
name is the last part of the longer path, which decides the order of paths that go on from one path
(`lePath_nextPath`), and the names of the longer path are those of the shorter and the new one.
-/

namespace FillInStory

variable {path : Text}

theorem head?_ne_of_notMem {c : Char} {t : Text} (absent : c ∉ t) : t.head? ≠ some c := fun start =>
  absent (List.mem_of_mem_head? start)

/-- Dropping a character at the end leaves out nothing else. -/
theorem exists_dropTrailing_append (c : Char) (t : Text) :
    ∃ n, t = Text.dropTrailing c t ++ List.replicate n c := by
  refine ⟨(t.reverse.takeWhile (· = c)).length, ?_⟩
  have only : t.reverse.takeWhile (· = c) = List.replicate (t.reverse.takeWhile (· = c)).length c := by
    refine List.eq_replicate_iff.mpr ⟨rfl, fun d member => ?_⟩
    simpa using List.mem_takeWhile_imp member
  have whole := congrArg List.reverse (List.takeWhile_append_dropWhile (p := (· = c)) (l := t.reverse))
  rw [only] at whole
  simpa [Text.dropTrailing] using whole.symm

theorem head?_of_dropTrailing {c d : Char} {t rest : Text} (remains : Text.dropTrailing c t = d :: rest) :
    t.head? = some d := by
  obtain ⟨n, whole⟩ := exists_dropTrailing_append c t
  rw [whole, remains]
  rfl

/-- If nothing remains there was nothing else. -/
theorem head?_of_dropTrailing_eq_nil {c : Char} {t : Text} (begun : t ≠ []) (none : Text.dropTrailing c t = []) :
    t.head? = some c := by
  obtain ⟨n, whole⟩ := exists_dropTrailing_append c t
  rw [none, List.nil_append] at whole
  cases n with
  | zero => exact absurd whole begun
  | succ n => rw [whole]; rfl

theorem getLast?_dropTrailing_ne (c : Char) (t : Text) : (Text.dropTrailing c t).getLast? ≠ some c := by
  intro ends
  rw [Text.dropTrailing, List.getLast?_reverse] at ends
  have stops := List.head?_dropWhile_not (· = c) t.reverse
  rw [ends] at stops
  simp at stops

/-- The pieces from one on, joined again, are where the text ends. -/
theorem suffix_of_pieces {t piece : Text} {before after : List Text}
    (pieced : pieces '/' t = before ++ piece :: after) : piece ++ after.flatMap ('/' :: ·) <:+ t := by
  cases before with
  | nil => exact ⟨[], append_flatMap_of_pieces pieced⟩
  | cons first before =>
    refine ⟨first ++ before.flatMap ('/' :: ·) ++ ['/'], ?_⟩
    rw [← append_flatMap_of_pieces pieced]
    simp

/-- The first piece of a text that does not begin with a slash is not empty. -/
theorem exists_pieces_cons {c : Char} (plain : c ≠ '/') (rest : Text) :
    ∃ name others, pieces '/' (c :: rest) = (c :: name) :: others := by
  rw [pieces, if_neg plain]
  split
  · exact ⟨_, _, rfl⟩
  · exact ⟨_, _, rfl⟩

/-- The last piece of a text that does not end in a slash is not empty. -/
theorem getLast?_pieces_ne {t : Text} (begun : t ≠ []) (ends : t.getLast? ≠ some '/') :
    (pieces '/' t).getLast? ≠ some [] := by
  intro last
  obtain ⟨before, pieced⟩ := List.getLast?_eq_some_iff.mp last
  cases before with
  | nil => exact begun (append_flatMap_of_pieces pieced).symm
  | cons first before =>
    refine ends ?_
    rw [← append_flatMap_of_pieces pieced]
    simp

/-- A path that says more than where to begin goes on by a name behind a slash. -/
theorem exists_nextPath_eq (begun : path ≠ []) (named : namesWorkingDirectory path = false) :
    ∃ before, (path = before ∨ path = before ++ ['/']) ∧
      ∀ name : Text, '/' ∉ name → nextPath path name = before ++ '/' :: name := by
  by_cases closed : path.getLast? = some '/'
  · obtain ⟨before, rfl⟩ := List.getLast?_eq_some_iff.mp closed
    exact ⟨before, Or.inr rfl, fun name plain => by simp [nextPath, named, appendName, head?_ne_of_notMem plain]⟩
  · exact ⟨path, Or.inl rfl, fun name plain => by
      simp [nextPath, named, appendName, head?_ne_of_notMem plain, begun, closed]⟩

/-- For every path, names stand alone or behind the same beginning and a slash. -/
theorem nextPath_cases (path : Text) :
    (∀ name, '/' ∉ name → nextPath path name = name) ∨
      ∃ before, ∀ name, '/' ∉ name → nextPath path name = before ++ '/' :: name := by
  cases named : namesWorkingDirectory path with
  | true => exact Or.inl fun name _ => if_pos named
  | false =>
    by_cases begun : path = []
    · subst begun
      exact Or.inl fun name plain => by simp [nextPath, named, appendName, head?_ne_of_notMem plain]
    · obtain ⟨before, -, goesOn⟩ := exists_nextPath_eq begun named
      exact Or.inr ⟨before, goesOn⟩

theorem nextPath_sublist {name : Text} (plain : '/' ∉ name) : (nextPath path name).Sublist (path ++ '/' :: name) := by
  unfold nextPath appendName
  rw [if_neg (head?_ne_of_notMem plain)]
  split_ifs
  · exact (List.sublist_cons_self _ _).trans (List.sublist_append_right _ _)
  · exact (List.sublist_cons_self _ _).append_left path
  · exact List.Sublist.refl _

theorem namesWorkingDirectory_append_cons (before after : Text) :
    namesWorkingDirectory (before ++ '/' :: after) =
      (namesWorkingDirectory before && (pieces '/' after).all fun piece => piece = [] || piece = ['.']) := by
  unfold namesWorkingDirectory
  rw [pieces_append_cons]
  cases pieced : pieces '/' before with
  | nil => exact absurd pieced (pieces_ne_nil _ _)
  | cons first others => simp [Bool.and_assoc]

/-- A path that says more than where to begin still does when it goes on. -/
theorem nextPath_of_not_namesWorkingDirectory {name : Text} (begun : path ≠ []) (plain : '/' ∉ name)
    (named : namesWorkingDirectory path = false) :
    nextPath path name ≠ [] ∧ namesWorkingDirectory (nextPath path name) = false := by
  obtain ⟨before, ends, goesOn⟩ := exists_nextPath_eq begun named
  have notIdle : namesWorkingDirectory before = false := by
    rcases ends with rfl | rfl
    · exact named
    · simpa [namesWorkingDirectory_append_cons, pieces] using named
  rw [goesOn name plain, namesWorkingDirectory_append_cons, notIdle]
  exact ⟨by simp, rfl⟩

/-- Whether names begin with an empty one, after dots. -/
def BeginEmpty (names : List Text) : Prop := (names.dropWhile (· = ['.'])).head? = some []

/-- A path that says more than where to begin goes on by every name, and a dot by any but an empty one. -/
theorem nextPath_begun {name : Text} {rest : List Text} (begun : path ≠ []) (plain : '/' ∉ name)
    (spelled : namesWorkingDirectory path = false ∨ path = ['.'] ∧ ¬ BeginEmpty (name :: rest)) :
    nextPath path name ≠ [] ∧ (namesWorkingDirectory (nextPath path name) = false ∨
      nextPath path name = ['.'] ∧ ¬ BeginEmpty rest) := by
  rcases spelled with named | ⟨rfl, spelled⟩
  · exact (nextPath_of_not_namesWorkingDirectory begun plain named).imp_right Or.inl
  · have stands : nextPath ['.'] name = name := rfl
    rw [stands]
    by_cases dot : name = ['.']
    · subst dot
      exact ⟨by simp, Or.inr ⟨rfl, spelled⟩⟩
    · have nonempty : name ≠ [] := by
        rintro rfl
        exact spelled rfl
      exact ⟨nonempty, Or.inl (by simp [namesWorkingDirectory, pieces_of_notMem plain, dot])⟩

/-- A name that stands for the place where it is met. -/
def Idle (name : Text) : Prop := name = [] ∨ name = ['.']

/-- Names of which the last is not empty are idle ones, and then others that do not begin with an empty one,
even after dots. -/
theorem exists_idle_append {names : List Text} (nonempty : names ≠ []) (ends : names.getLast? ≠ some []) :
    ∃ idle name others, names = idle ++ name :: others ∧ (∀ n ∈ idle, Idle n) ∧ ¬ BeginEmpty (name :: others) := by
  induction names with
  | nil => exact absurd rfl nonempty
  | cons name rest ih =>
    by_cases empty : BeginEmpty (name :: rest)
    · have stands : Idle name := by
        by_cases dot : name = ['.']
        · exact Or.inr dot
        · exact Or.inl (by simpa [BeginEmpty, dot] using empty)
      have more : rest ≠ [] := by
        rintro rfl
        rcases stands with rfl | rfl
        · exact ends rfl
        · exact absurd empty (by simp [BeginEmpty])
      rw [List.getLast?_cons_of_ne_nil more] at ends
      obtain ⟨idle, next, others, rfl, each, begun⟩ := ih more ends
      exact ⟨name :: idle, next, others, rfl, List.forall_mem_cons.mpr ⟨stands, each⟩, begun⟩
    · exact ⟨[], name, rest, rfl, by simp, empty⟩

/-- From a dot or from no path at all a path goes on by standing for the name alone. -/
theorem nextPath_of_idle {name : Text} (begins : Idle path) (plain : '/' ∉ name) : nextPath path name = name := by
  rcases begins with rfl | rfl
  · simp [nextPath, namesWorkingDirectory, pieces, appendName, head?_ne_of_notMem plain]
  · rfl

/-- By idle names a path does not get beyond where it begins. -/
theorem idle_foldl_nextPath {names : List Text} (idle : ∀ name ∈ names, Idle name) (begins : Idle path) :
    Idle (names.foldl nextPath path) := by
  induction names generalizing path with
  | nil => exact begins
  | cons name rest ih =>
    rw [List.forall_mem_cons] at idle
    have plain : '/' ∉ name := by
      rcases idle.1 with rfl | rfl <;> decide
    rw [List.foldl_cons, nextPath_of_idle begins plain]
    exact ih idle.2 idle.1

/-- Idle names at the front do not show in the path that goes on from them. -/
theorem foldl_nextPath_idle_append {idle others : List Text} {name : Text} (each : ∀ n ∈ idle, Idle n)
    (begins : Idle path) (plain : '/' ∉ name) :
    (idle ++ name :: others).foldl nextPath path = (name :: others).foldl nextPath path := by
  rw [List.foldl_append, List.foldl_cons, List.foldl_cons, nextPath_of_idle begins plain,
    nextPath_of_idle (idle_foldl_nextPath each begins) plain]

theorem nextPath_root {name : Text} (plain : '/' ∉ name) : nextPath ['/'] name = '/' :: name := by
  simp [nextPath, namesWorkingDirectory, pieces, appendName, head?_ne_of_notMem plain]

theorem head?_ne_slash_of_namesWorkingDirectory (idle : namesWorkingDirectory path) :
    path.head? ≠ some '/' := by
  cases path with
  | nil => simp
  | cons c rest =>
    rintro same
    obtain rfl : c = '/' := by simpa using same
    simp [namesWorkingDirectory, pieces] at idle

/-! ## The names of a path -/

namespace Location

theorem namesOf_append_cons (before after : Text) :
    namesOf (before ++ '/' :: after) = namesOf before ++ namesOf after := by
  simp [namesOf, pieces_append_cons]

theorem namesOf_of_notMem {name : Text} (plain : '/' ∉ name) : namesOf name = [Text.utf8 name] := by
  simp [namesOf, pieces_of_notMem plain]

/-- The names of a path that only spells the working directory stand for the place itself. -/
theorem idle_of_namesWorkingDirectory (idle : namesWorkingDirectory path) :
    ∀ name ∈ namesOf path, name = [] ∨ name = FileName.self := by
  unfold namesWorkingDirectory at idle
  cases pieced : pieces '/' path with
  | nil => exact absurd pieced (pieces_ne_nil _ _)
  | cons first others =>
    simp only [pieced, Bool.and_eq_true, decide_eq_true_eq, List.all_eq_true, Bool.or_eq_true] at idle
    obtain ⟨rfl, idle⟩ := idle
    intro name member
    simp only [namesOf, pieced, List.map_cons, List.mem_cons, List.mem_map] at member
    rcases member with rfl | ⟨piece, member, rfl⟩
    · exact Or.inr rfl
    · rcases idle piece member with rfl | rfl
      · exact Or.inl rfl
      · exact Or.inr rfl

/-- The first of these names is a dot. -/
theorem exists_namesOf_eq_self_cons (idle : namesWorkingDirectory path) :
    ∃ rest, namesOf path = FileName.self :: rest := by
  unfold namesWorkingDirectory at idle
  unfold namesOf
  split at idle
  · cases idle
  · next first others pieced =>
    rw [Bool.and_eq_true, decide_eq_true_eq] at idle
    rw [pieced, idle.1]
    exact ⟨_, rfl⟩

theorem namesOf_append_replicate (t : Text) (n : Nat) :
    namesOf (t ++ List.replicate n '/') = namesOf t ++ List.replicate n [] := by
  induction n with
  | zero => simp
  | succ n ih =>
    rw [List.replicate_succ', ← List.append_assoc, List.replicate_succ', ← List.append_assoc, ← ih]
    exact namesOf_append_cons _ []

end Location

/-! ## The order of paths -/

/-- A name that entries of a directory may have. -/
@[mk_iff]
structure FileName.Proper (name : FileName) : Prop where
  nonempty : name ≠ []
  notSelf : name ≠ FileName.self
  notParent : name ≠ FileName.parent
  noSlash : slashByte ∉ name

instance FileName.decidableProper (name : FileName) : Decidable name.Proper :=
  decidable_of_iff _ (FileName.proper_iff name).symm

theorem utf8_cons_slash (t : Text) : Text.utf8 ('/' :: t) = slashByte :: Text.utf8 t := rfl

namespace FileName.Proper

variable {name : Text} (proper : FileName.Proper (Text.utf8 name))
include proper

theorem slash_notMem : '/' ∉ name := by
  intro member
  obtain ⟨before, after, rfl⟩ := List.append_of_mem member
  refine proper.noSlash ?_
  rw [Text.utf8_append, utf8_cons_slash]
  simp

theorem ofPiece? : PathPart.ofPiece? name = some (.name (Text.utf8 name)) := by
  have nonempty : name ≠ [] := fun same => proper.nonempty (same ▸ rfl)
  have notDot : name ≠ ['.'] := fun same => proper.notSelf (same ▸ rfl)
  have notDots : name ≠ ['.', '.'] := fun same => proper.notParent (same ▸ rfl)
  simp [PathPart.ofPiece?, nonempty, notDot, notDots]

end FileName.Proper

namespace PathPart

/-- The name that a path goes on by is its last part, and the parts before it are the same for every
name. -/
theorem exists_ofPath_nextPath (path : Text) :
    ∃ before, ∀ name, FileName.Proper (Text.utf8 name) →
      ofPath (nextPath path name) = before ++ [.name (Text.utf8 name)] := by
  rcases nextPath_cases path with alone | ⟨before, behind⟩
  · refine ⟨[], fun name proper => ?_⟩
    have notDot : name ≠ ['.'] := fun same => proper.notSelf (same ▸ rfl)
    rw [alone name proper.slash_notMem, ofPath, leading, pieces_of_notMem proper.slash_notMem]
    simp [head?_ne_of_notMem proper.slash_notMem, notDot, proper.ofPiece?]
  · refine ⟨leading (before ++ ['/']) ++ (pieces '/' before).filterMap PathPart.ofPiece?, fun name proper => ?_⟩
    have same : leading (before ++ '/' :: name) = leading (before ++ ['/']) := by
      unfold leading
      rw [pieces_append_cons, pieces_append_cons, List.head?_append_of_ne_nil _ (pieces_ne_nil _ _),
        List.head?_append_of_ne_nil _ (pieces_ne_nil _ _)]
      cases before <;> rfl
    rw [behind name proper.slash_notMem, ofPath, same, pieces_append_cons,
      pieces_of_notMem proper.slash_notMem, List.filterMap_append]
    simp [proper.ofPiece?]

theorem leEach_append_singleton (before : List PathPart) (a b : FileName) :
    leEach (before ++ [.name a]) (before ++ [.name b]) = FileName.le a b := by
  induction before with
  | nil =>
    by_cases same : a = b
    · subst same
      simpa [leEach] using (FileName.le_total a a).symm
    · simp [leEach, le, same]
  | cons part before ih => simpa [leEach] using ih

/-- Paths that go on by one name each are in the order of these names. -/
theorem lePath_nextPath (path : Text) {a b : Text} (first : FileName.Proper (Text.utf8 a))
    (second : FileName.Proper (Text.utf8 b)) :
    lePath (nextPath path a) (nextPath path b) = FileName.le (Text.utf8 a) (Text.utf8 b) := by
  obtain ⟨before, parts⟩ := exists_ofPath_nextPath path
  rw [lePath, parts a first, parts b second, leEach_append_singleton]

end PathPart

end FillInStory
