import FillInStory.Files.Expansion
import FillInStory.Proofs.PathNames

/-! # Absolute paths are canonical

A path is canonical if it is the path of a location that proper names lead to. Taking the names of a path
one by one gives such a location, and the names of its path lead there again (`CanonicalPath.go_namesOf`). So
the absolute path of a path is canonical unless its variables cannot be replaced or the working directory is
none, and a canonical path without a dollar sign is its own absolute path (`CanonicalPath.absolutePath_eq`).
-/

namespace FillInStory

/-! ## Names and bytes -/

theorem slashByte_notMem_utf8EncodeChar {c : Char} (other : c ≠ '/') : slashByte ∉ String.utf8EncodeChar c :=
  fun member => other (Char.toNat_inj.mp (Text.toNat_of_mem_utf8EncodeChar member (by decide)))

/-- What has no separator belongs to the first piece of what it stands before. -/
theorem pieces_append_of_notMem {α : Type} [DecidableEq α] {separator : α} {s t first : List α}
    {others : List (List α)} (absent : separator ∉ s) (pieced : pieces separator t = first :: others) :
    pieces separator (s ++ t) = (s ++ first) :: others := by
  induction s with
  | nil => exact pieced
  | cons c s ih =>
    simp only [List.mem_cons, not_or] at absent
    simp [pieces, Ne.symm absent.1, ih absent.2]

namespace Location

variable {start location : Location} {names : List FileName} {name : FileName} {t : Text}

/-- The names of a path are what stands between the slashes of its bytes. -/
theorem namesOf_eq_pieces (t : Text) : namesOf t = pieces slashByte (Text.utf8 t) := by
  induction t with
  | nil => rfl
  | cons c t ih =>
    by_cases slash : c = '/'
    · subst slash
      exact congrArg ([] :: ·) ih
    · cases pieced : pieces '/' t with
      | nil => exact absurd pieced (pieces_ne_nil _ _)
      | cons first others =>
        have rest : pieces slashByte (Text.utf8 t) = Text.utf8 first :: others.map Text.utf8 := by
          rw [← ih, namesOf, pieced, List.map_cons]
        rw [Text.utf8_cons, pieces_append_of_notMem (slashByte_notMem_utf8EncodeChar slash) rest]
        simp [namesOf, pieces, slash, pieced]

theorem slashByte_notMem_of_mem_namesOf (member : name ∈ namesOf t) : slashByte ∉ name :=
  notMem_of_mem_pieces (namesOf_eq_pieces t ▸ member)

/-! ## Where names lead -/

theorem step_of_proper (proper : name.Proper) (here : Location) : here.step name = here ++ [name] := by
  simp [step, proper.nonempty, proper.notSelf, proper.notParent]

theorem proper_step (proper : ∀ n ∈ start, n.Proper) (noSlash : slashByte ∉ name) :
    ∀ n ∈ start.step name, n.Proper := by
  unfold step
  split_ifs with idle up
  · exact proper
  · exact fun n member => proper n (List.dropLast_subset _ member)
  · rw [Bool.or_eq_true, decide_eq_true_iff, decide_eq_true_iff, not_or] at idle
    exact List.forall_mem_append.mpr ⟨proper, List.forall_mem_singleton.mpr ⟨idle.1, idle.2, up, noSlash⟩⟩

/-- Names without slashes lead from proper names to proper names. -/
theorem proper_go (proper : ∀ n ∈ start, n.Proper) (noSlash : ∀ n ∈ names, slashByte ∉ n) :
    ∀ n ∈ start.go names, n.Proper := by
  induction names generalizing start with
  | nil => exact proper
  | cons name names ih =>
    rw [List.forall_mem_cons] at noSlash
    exact ih (proper_step proper noSlash.1) noSlash.2

/-- Proper names are taken one after the other. -/
theorem go_of_proper (proper : ∀ n ∈ names, n.Proper) : start.go names = start ++ names := by
  induction names generalizing start with
  | nil => exact (List.append_nil start).symm
  | cons name names ih =>
    rw [List.forall_mem_cons] at proper
    change (start.step name).go names = start ++ name :: names
    rw [step_of_proper proper.1, ih proper.2, List.append_assoc, List.singleton_append]

/-- A place is reached by no other names than those of the start and those on the way. -/
theorem mem_of_mem_go (member : name ∈ start.go names) : name ∈ start ∨ name ∈ names := by
  induction names generalizing start with
  | nil => exact Or.inl member
  | cons first names ih =>
    rcases @ih (start.step first) member with before | later
    · unfold step at before
      split_ifs at before
      · exact Or.inl before
      · exact Or.inl (List.dropLast_subset _ before)
      · exact (List.mem_append.mp before).imp_right fun last =>
          List.mem_cons.mpr (Or.inl (List.mem_singleton.mp last))
    · exact Or.inr (List.mem_cons_of_mem _ later)

/-! ## The path of a location -/

theorem path?_eq_some_iff : location.path? = some t ↔ Text.utf8 t = location.pathBytes :=
  Text.ofUtf8?_eq_some_iff _ _

theorem pathBytes_of_ne_nil (below : location ≠ []) :
    location.pathBytes = location.flatMap (slashByte :: ·) := by
  simp [pathBytes, below]

/-- A location whose names are texts has a path. -/
theorem exists_path?_eq (texts : ∀ n ∈ location, ∃ t, Text.utf8 t = n) : ∃ t, location.path? = some t := by
  simp only [path?_eq_some_iff]
  by_cases below : location = []
  · subst below
    exact ⟨['/'], rfl⟩
  rw [pathBytes_of_ne_nil below]
  clear below
  induction location with
  | nil => exact ⟨[], rfl⟩
  | cons name rest ih =>
    rw [List.forall_mem_cons] at texts
    obtain ⟨⟨first, rfl⟩, texts⟩ := texts
    obtain ⟨others, same⟩ := ih texts
    exact ⟨'/' :: (first ++ others), by rw [utf8_cons_slash, Text.utf8_append, same]; rfl⟩

/-- The names of a path lead from the root to a location that has a path. -/
theorem exists_path?_go_namesOf (t : Text) : ∃ path, (go [] (namesOf t)).path? = some path := by
  refine exists_path?_eq fun n member => ?_
  rcases mem_of_mem_go member with none | member
  · cases none
  · exact List.exists_of_mem_map member |>.imp fun _ => And.right

/-- A text is the canonical path of a location. -/
structure CanonicalPath (location : Location) (t : Text) : Prop where
  proper : ∀ name ∈ location, FileName.Proper name
  path : location.path? = some t

namespace CanonicalPath

variable (canonical : location.CanonicalPath t)
include canonical

theorem namesOf_eq (below : location ≠ []) : namesOf t = [] :: location := by
  have bytes := path?_eq_some_iff.mp canonical.path
  rw [namesOf_eq_pieces, bytes, pathBytes_of_ne_nil below]
  simpa using pieces_append_flatMap id (s := []) List.not_mem_nil fun n member => (canonical.proper n member).noSlash

theorem eq_slash (root : location = []) : t = ['/'] := by
  subst root
  exact Text.utf8_injective (path?_eq_some_iff.mp canonical.path)

/-- A canonical path leads to the location that it is the path of. -/
theorem go_namesOf : go [] (namesOf t) = location := by
  by_cases root : location = []
  · rw [canonical.eq_slash root, root]
    rfl
  · rw [canonical.namesOf_eq root]
    exact (go_of_proper canonical.proper).trans (List.nil_append _)

theorem head?_eq : t.head? = some '/' := by
  by_cases root : location = []
  · rw [canonical.eq_slash root]
    rfl
  · obtain ⟨first, others, pieced, empty, rfl⟩ := List.map_eq_cons_iff.mp (canonical.namesOf_eq root)
    obtain rfl : first = [] := Text.utf8_injective empty
    have whole := append_flatMap_of_pieces pieced
    cases others with
    | nil => exact absurd rfl root
    | cons second others => rw [← whole]; rfl

theorem append (below : location ≠ []) {n : Text} (proper : FileName.Proper (Text.utf8 n)) :
    (location ++ [Text.utf8 n]).CanonicalPath (t ++ '/' :: n) where
  proper := List.forall_mem_append.mpr ⟨canonical.proper, List.forall_mem_singleton.mpr proper⟩
  path := by
    have bytes := path?_eq_some_iff.mp canonical.path
    rw [pathBytes_of_ne_nil below] at bytes
    rw [path?_eq_some_iff, pathBytes_of_ne_nil (by simp), Text.utf8_append, utf8_cons_slash, bytes]
    simp

end CanonicalPath

end Location

/-! ## Absolute paths -/

namespace Expansion

variable {s : Surroundings} {path expanded : Text}

theorem variablesIn_cons_of_ne (environment : Dictionary Text Text) {c : Char} (other : c ≠ '$') (rest : Text) :
    variablesIn environment (c :: rest) = (variablesIn environment rest).map (c :: ·) := by
  rw [variablesIn, if_neg other]

/-- A path from the root has no tilde, and its variables leave it a path from the root. -/
theorem expand?_of_absolute (s : Surroundings) (absolute : path.head? = some '/') :
    expand? s path = variablesIn s.environment path ∧
      ∀ expanded, variablesIn s.environment path = some expanded → expanded.head? = some '/' := by
  cases path with
  | nil => cases absolute
  | cons c rest =>
    obtain rfl : c = '/' := Option.some.inj absolute
    unfold expand?
    rw [variablesIn_cons_of_ne _ (by decide)]
    cases variablesIn s.environment rest with
    | none => exact ⟨rfl, nofun⟩
    | some value => exact ⟨rfl, fun expanded same => by obtain rfl := Option.some.inj same; rfl⟩

end Expansion

/-- The names on the way to the working directory are proper ones. -/
def Surroundings.WellPlaced (s : Surroundings) : Prop :=
  ∀ here, s.workingDirectory = some here → ∀ name ∈ here, FileName.Proper name

section

variable {s : Surroundings} {path expanded : Text} {here location : Location}

theorem absolutePath_of_removed (removed : s.workingDirectory = none) (path : Text) : absolutePath s path = path := by
  unfold absolutePath
  rw [removed]
  cases Expansion.expand? s path <;> rfl

theorem absolutePath_of_unset (unset : Expansion.expand? s path = none) : absolutePath s path = path := by
  unfold absolutePath
  rw [unset]

theorem absolutePath_of_expanded (placed : s.workingDirectory = some here)
    (replaced : Expansion.expand? s path = some expanded) :
    absolutePath s path =
      (((if expanded.head? = some '/' then [] else here : Location).go (Location.namesOf expanded)).path?).getD
        path := by
  unfold absolutePath
  rw [placed, replaced]

/-- A path from the root stands for the location that its names lead to once its variables are replaced. -/
theorem absolutePath_of_absolute (placed : s.workingDirectory = some here) (absolute : path.head? = some '/')
    (replaced : Expansion.variablesIn s.environment path = some expanded) :
    (Location.go [] (Location.namesOf expanded)).path? = some (absolutePath s path) := by
  obtain ⟨same, stays⟩ := Expansion.expand?_of_absolute s absolute
  obtain ⟨result, found⟩ := Location.exists_path?_go_namesOf expanded
  rw [absolutePath_of_expanded placed (same.trans replaced), if_pos (stays _ replaced), found, Option.getD_some]

/-- A canonical path without a dollar sign is its own absolute path, whatever it is read against. -/
theorem Location.CanonicalPath.absolutePath_eq (canonical : location.CanonicalPath path) (plain : '$' ∉ path)
    (s : Surroundings) : absolutePath s path = path := by
  cases placed : s.workingDirectory with
  | none => exact absolutePath_of_removed placed path
  | some here =>
    have result := absolutePath_of_absolute placed canonical.head?_eq (Expansion.variablesIn_of_notMem _ plain)
    rw [canonical.go_namesOf, canonical.path] at result
    exact (Option.some.inj result).symm

/-- A tilde stands for the home directory. -/
theorem absolutePath_tilde (placed : s.workingDirectory = some here) (canonical : location.CanonicalPath s.home) :
    absolutePath s "~" = s.home := by
  have replaced : Expansion.expand? s "~" = some s.home := by
    unfold Expansion.expand?
    rw [Expansion.variablesIn_of_notMem _ (by decide)]
    rfl
  rw [absolutePath_of_expanded placed replaced, if_pos canonical.head?_eq, canonical.go_namesOf, canonical.path]
  rfl

/-- An absolute path is canonical, or the path itself where its variables cannot be replaced, where the
working directory is none, or where that has a name that is no text and the path depends on it. -/
theorem canonicalPath_absolutePath (wellPlaced : s.WellPlaced) (path : Text) :
    (∃ location, Location.CanonicalPath location (absolutePath s path)) ∨
      absolutePath s path = path ∧ (s.workingDirectory = none ∨
        Expansion.expand? s path = none ∨ path.head? ≠ some '/') := by
  cases placed : s.workingDirectory with
  | none => exact Or.inr ⟨absolutePath_of_removed placed path, Or.inl rfl⟩
  | some here =>
    cases replaced : Expansion.expand? s path with
    | none => exact Or.inr ⟨absolutePath_of_unset replaced, Or.inr (Or.inl rfl)⟩
    | some expanded =>
      have result := absolutePath_of_expanded placed replaced
      set start : Location := if expanded.head? = some '/' then [] else here with begins
      have proper : ∀ name ∈ start.go (Location.namesOf expanded), FileName.Proper name := by
        refine Location.proper_go ?_ fun n member => Location.slashByte_notMem_of_mem_namesOf member
        rw [begins]
        split_ifs
        · exact nofun
        · exact wellPlaced here placed
      cases found : (start.go (Location.namesOf expanded)).path? with
      | some text =>
        rw [found, Option.getD_some] at result
        exact Or.inl ⟨_, proper, result ▸ found⟩
      | none =>
        rw [found, Option.getD_none] at result
        refine Or.inr ⟨result, Or.inr (Or.inr fun absolute => ?_)⟩
        -- from the root every name on the way is a text
        obtain ⟨same, stays⟩ := Expansion.expand?_of_absolute s absolute
        rw [begins, if_pos (stays _ (same ▸ replaced))] at found
        obtain ⟨text, has⟩ := Location.exists_path?_go_namesOf expanded
        cases found.symm.trans has

end

end FillInStory
