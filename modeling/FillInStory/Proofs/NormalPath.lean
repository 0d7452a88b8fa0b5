import FillInStory.Proofs.AbsolutePath
import Mathlib.Data.List.Induction
import Mathlib.Logic.Relation

/-! # The normal form of a path

The names of a path can be simplified one at a time: an empty name or a dot goes, a double dot goes with the
name that it follows, and at the root it goes alone (`Simplifies`). Nothing is said about the order. Each
simplification leads to the same place (`Simplifies.go_eq`), and as long as there is one the names are not all
proper, so from any names exactly one list of proper names is reached (`Simplified.unique`). An absolute path is
spelled with the names that are reached from those of the expanded path, behind those of the working directory if
it is relative (`absolutePath_canonical`).
-/

namespace FillInStory

/-- A text names an entry: it is not empty, it is neither the directory itself nor the one above, and there is no
slash in it. -/
@[mk_iff]
structure Text.IsName (n : Text) : Prop where
  nonempty : n ≠ []
  notDot : n ≠ ['.']
  notDots : n ≠ ['.', '.']
  noSlash : '/' ∉ n

instance Text.decidableIsName (n : Text) : Decidable n.IsName := decidable_of_iff _ (Text.isName_iff n).symm

theorem slashByte_mem_utf8_iff (t : Text) : slashByte ∈ Text.utf8 t ↔ '/' ∈ t := by
  induction t with
  | nil => simp
  | cons c t ih =>
    rw [Text.utf8_cons, List.mem_append, List.mem_cons, ih]
    refine or_congr ⟨fun member => ?_, ?_⟩ Iff.rfl
    · by_contra other
      exact slashByte_notMem_utf8EncodeChar (Ne.symm other) member
    · rintro rfl
      decide

/-- The bytes of a text are a proper name exactly if the text names an entry. -/
theorem FileName.proper_utf8_iff (n : Text) : FileName.Proper (Text.utf8 n) ↔ n.IsName := by
  have self : FileName.self = Text.utf8 ['.'] := rfl
  have parent : FileName.parent = Text.utf8 ['.', '.'] := rfl
  rw [FileName.proper_iff, Text.isName_iff, slashByte_mem_utf8_iff, self, parent, Text.utf8_injective.ne_iff,
    Text.utf8_injective.ne_iff, ← Text.utf8_nil, Text.utf8_injective.ne_iff]

/-! ## Simplifying names -/

/-- One simplification of the names on the way from the root. -/
inductive Simplifies : List Text → List Text → Prop
  | idle (before after : List Text) {name : Text} (idle : name = [] ∨ name = ['.']) :
    Simplifies (before ++ name :: after) (before ++ after)
  | back (before after : List Text) {name : Text} (proper : name.IsName) :
    Simplifies (before ++ name :: ['.', '.'] :: after) (before ++ after)
  | top (after : List Text) : Simplifies (['.', '.'] :: after) after

/-- Simplifying some names leads to others, which name entries one below the other. -/
structure Simplified (names result : List Text) : Prop where
  reached : Relation.ReflTransGen Simplifies names result
  proper : ∀ n ∈ result, n.IsName

section

variable {names others result : List Text}

theorem Simplifies.append (step : Simplifies names others) (after : List Text) :
    Simplifies (names ++ after) (others ++ after) := by
  cases step with
  | idle before rest idle => simpa using Simplifies.idle before (rest ++ after) idle
  | back before rest proper => simpa using Simplifies.back before (rest ++ after) proper
  | top => exact Simplifies.top (others ++ after)

theorem Location.go_append (start : Location) (first second : List FileName) :
    start.go (first ++ second) = (start.go first).go second := List.foldl_append

/-- A simplification leads to the same place. -/
theorem Simplifies.go_eq (step : Simplifies names others) :
    Location.go [] (names.map Text.utf8) = Location.go [] (others.map Text.utf8) := by
  cases step with
  | idle before after idle =>
    rw [List.map_append, List.map_append, Location.go_append, Location.go_append]
    rcases idle with rfl | rfl <;> rfl
  | back before after proper =>
    rw [List.map_append, List.map_append, Location.go_append, Location.go_append]
    have up (here : Location) (name : FileName) : Location.step (here ++ [name]) FileName.parent = here :=
      List.dropLast_concat
    have down := Location.step_of_proper ((FileName.proper_utf8_iff _).mpr proper)
    change Location.go (Location.step (Location.step _ _) FileName.parent) _ = _
    rw [down, up]
  | top after => rfl

theorem go_eq_of_reached (reached : Relation.ReflTransGen Simplifies names result) :
    Location.go [] (names.map Text.utf8) = Location.go [] (result.map Text.utf8) := by
  induction reached with
  | refl => rfl
  | tail _ step ih => exact ih.trans step.go_eq

theorem Simplified.go_eq (simplified : Simplified names result) :
    Location.go [] (names.map Text.utf8) = result.map Text.utf8 := by
  have proper : ∀ n ∈ result.map Text.utf8, FileName.Proper n :=
    List.forall_mem_map.mpr fun n member => (FileName.proper_utf8_iff n).mpr (simplified.proper n member)
  rw [go_eq_of_reached simplified.reached, Location.go_of_proper proper, List.nil_append]

/-- Whatever is simplified first, the same names are left. -/
theorem Simplified.unique (first : Simplified names result) (second : Simplified names others) :
    result = others :=
  Text.utf8_injective.list_map (first.go_eq.symm.trans second.go_eq)

/-- Names without slashes can be simplified until all of them name entries. -/
theorem exists_simplified (noSlash : ∀ n ∈ names, '/' ∉ n) : ∃ result, Simplified names result := by
  induction names using List.reverseRecOn with
  | nil => exact ⟨[], .refl, nofun⟩
  | append_singleton names name ih =>
    rw [List.forall_mem_append, List.forall_mem_singleton] at noSlash
    obtain ⟨result, reached, proper⟩ := ih noSlash.1
    have begun : Relation.ReflTransGen Simplifies (names ++ [name]) (result ++ [name]) :=
      reached.lift (· ++ [name]) fun _ _ step => step.append [name]
    by_cases idle : name = [] ∨ name = ['.']
    · have step := Simplifies.idle result [] idle
      rw [List.append_nil] at step
      exact ⟨result, begun.tail step, proper⟩
    by_cases up : name = ['.', '.']
    · subst up
      rcases List.eq_nil_or_concat result with rfl | ⟨above, last, rfl⟩
      · exact ⟨[], begun.tail (.top []), nofun⟩
      · rw [List.concat_eq_append] at begun proper
        rw [List.forall_mem_append, List.forall_mem_singleton] at proper
        have step := Simplifies.back above [] proper.2
        rw [List.append_nil] at step
        exact ⟨above, begun.tail (by simpa using step), proper.1⟩
    · rw [not_or] at idle
      exact ⟨result ++ [name], begun,
        List.forall_mem_append.mpr ⟨proper, List.forall_mem_singleton.mpr ⟨idle.1, idle.2, up, noSlash.2⟩⟩⟩

end

/-! ## The path that is spelled with names -/

def pathAlong (names : List Text) : Text := '/' :: List.intercalate ['/'] names

theorem pathAlong_eq_flatMap {names : List Text} (below : names ≠ []) :
    pathAlong names = names.flatMap ('/' :: ·) := by
  obtain ⟨first, others, rfl⟩ := List.exists_cons_of_ne_nil below
  clear below
  induction others generalizing first with
  | nil => simp [pathAlong, List.intercalate]
  | cons second others ih =>
    have rest := ih second
    simp only [pathAlong, List.intercalate, List.intersperse, List.flatMap_cons] at rest ⊢
    simp [rest]

/-- The path of a location is the path along its names. -/
theorem Location.path?_map_utf8 (names : List Text) : path? (names.map Text.utf8) = some (pathAlong names) := by
  rw [path?_eq_some_iff]
  by_cases below : names = []
  · subst below
    rfl
  rw [pathAlong_eq_flatMap below, pathBytes_of_ne_nil (by simpa using below), List.flatMap_map]
  clear below
  induction names with
  | nil => rfl
  | cons name names ih => rw [List.flatMap_cons, List.flatMap_cons, Text.utf8_append, ih, utf8_cons_slash]

/-- A path along names that name entries ends with a slash only if it is the root. -/
theorem getLast?_pathAlong_ne {names : List Text} (proper : ∀ n ∈ names, n.IsName) (below : pathAlong names ≠ ['/']) :
    (pathAlong names).getLast? ≠ some '/' := by
  rcases List.eq_nil_or_concat names with rfl | ⟨before, last, rfl⟩
  · exact absurd rfl below
  · rw [List.concat_eq_append] at proper ⊢
    obtain ⟨-, proper⟩ := List.forall_mem_append.mp proper
    have proper := List.forall_mem_singleton.mp proper
    obtain ⟨rest, c, rfl⟩ := (List.eq_nil_or_concat last).resolve_left proper.nonempty
    rw [List.concat_eq_append] at proper ⊢
    have other : c ≠ '/' := by
      rintro rfl
      exact proper.noSlash (by simp)
    rw [pathAlong_eq_flatMap (by simp), List.flatMap_append, List.flatMap_singleton, ← List.cons_append,
      ← List.append_assoc, List.getLast?_concat]
    simpa using other

/-! ## Absolute paths -/

/-- The working directory can be read, and some names lead to it from the root. -/
structure Surroundings.PlacedAt (s : Surroundings) (place : List Text) : Prop where
  workingDirectory : s.workingDirectory = some (place.map Text.utf8)
  proper : ∀ n ∈ place, n.IsName

variable {s : Surroundings} {path expanded : Text} {place : List Text}

/-- The names of a path whose variables are replaced, behind those of the working directory if it is relative. -/
def namesFrom (place : List Text) (expanded : Text) : List Text :=
  (if expanded.head? = some '/' then [] else place) ++ pieces '/' expanded

/-- An absolute path is the path along the names that are left when those of the expanded path are simplified. -/
theorem absolutePath_of_simplified (placed : s.PlacedAt place) (replaced : Expansion.expand? s path = some expanded)
    {names : List Text} (simplified : Simplified (namesFrom place expanded) names) :
    absolutePath s path = pathAlong names := by
  have begins : (if expanded.head? = some '/' then [] else place.map Text.utf8 : Location) =
      Location.go [] ((if expanded.head? = some '/' then [] else place).map Text.utf8) := by
    split_ifs
    · rfl
    · rw [Location.go_of_proper, List.nil_append]
      exact List.forall_mem_map.mpr fun n member => (FileName.proper_utf8_iff n).mpr (placed.proper n member)
  rw [absolutePath_of_expanded placed.workingDirectory replaced, begins, Location.namesOf, ← Location.go_append,
    ← List.map_append]
  change ((Location.go [] ((namesFrom place expanded).map Text.utf8)).path?).getD path = _
  rw [simplified.go_eq, Location.path?_map_utf8, Option.getD_some]

theorem exists_simplified_namesFrom (placed : s.PlacedAt place) (expanded : Text) :
    ∃ names, Simplified (namesFrom place expanded) names := by
  refine exists_simplified (List.forall_mem_append.mpr ⟨?_, fun n member => notMem_of_mem_pieces member⟩)
  split_ifs
  · exact nofun
  · exact fun n member => (placed.proper n member).noSlash

/-- Absolute paths are canonical. Where the working directory cannot be read or the variables of a path cannot be
replaced it stays as it is. Otherwise its absolute path leads from the root along names of entries, the only ones
that simplifying the names of the expanded path can come to; and if there is no dollar sign in it, it is its own
absolute path wherever it is read. -/
theorem absolutePath_canonical (s : Surroundings) (path : Text) :
    (s.workingDirectory = none ∨ Expansion.expand? s path = none → absolutePath s path = path) ∧
      ∀ place expanded, s.PlacedAt place → Expansion.expand? s path = some expanded →
        (∃ names, (∀ result, Simplified (namesFrom place expanded) result ↔ result = names) ∧
          absolutePath s path = '/' :: List.intercalate ['/'] names) ∧
        (absolutePath s path ≠ ['/'] → (absolutePath s path).getLast? ≠ some '/') ∧
        ('$' ∉ absolutePath s path →
          ∀ elsewhere, absolutePath elsewhere (absolutePath s path) = absolutePath s path) := by
  constructor
  · rintro (removed | unset)
    · exact absolutePath_of_removed removed path
    · exact absolutePath_of_unset unset
  · intro place expanded placed replaced
    obtain ⟨names, simplified⟩ := exists_simplified_namesFrom placed expanded
    have along := absolutePath_of_simplified placed replaced simplified
    rw [along]
    refine ⟨⟨names, fun result => ⟨fun other => other.unique simplified, ?_⟩, rfl⟩,
      getLast?_pathAlong_ne simplified.proper, fun plain elsewhere => ?_⟩
    · rintro rfl
      exact simplified
    · have canonical : Location.CanonicalPath (names.map Text.utf8) (pathAlong names) :=
        ⟨List.forall_mem_map.mpr fun n member => (FileName.proper_utf8_iff n).mpr (simplified.proper n member),
          Location.path?_map_utf8 names⟩
      exact canonical.absolutePath_eq plain elsewhere

/-- A place below the directory `/srv`, where a variable leads up and down again. -/
def inData : Surroundings :=
  ⟨Dictionary.ofList [("B", "../b")], some (["srv".toList, "data".toList].map Text.utf8), "/"⟩

theorem expand?_inData : Expansion.expand? inData "./$B//c/.." = some "./../b//c/.." := by
  have named : Expansion.reference inData.environment "B//c/..".toList = (some "../b".toList, "//c/..".toList) := by
    decide +kernel
  have after : Expansion.variablesIn inData.environment "//c/..".toList = some "//c/..".toList :=
    Expansion.variablesIn_of_notMem _ (by decide)
  have value : Expansion.variablesIn inData.environment "$B//c/..".toList = some "../b//c/..".toList := by
    change Expansion.variablesIn inData.environment ('$' :: "B//c/..".toList) = _
    rw [Expansion.variablesIn, if_pos rfl, named, after]
    rfl
  change (Expansion.variablesIn inData.environment ('.' :: '/' :: "$B//c/..".toList)).map _ = _
  rw [Expansion.variablesIn_cons_of_ne _ (by decide), Expansion.variablesIn_cons_of_ne _ (by decide), value]
  rfl

/-- A path with a variable, dots and a doubled slash is read from there, and stays what it is elsewhere. -/
theorem absolutePath_canonical_inData :
    inData.PlacedAt ["srv".toList, "data".toList] ∧ Expansion.expand? inData "./$B//c/.." = some "./../b//c/.." ∧
      absolutePath inData "./$B//c/.." = "/srv/b" ∧ '$' ∉ "/srv/b".toList ∧
        ∀ elsewhere, absolutePath elsewhere "/srv/b" = "/srv/b" := by
  have placed : inData.PlacedAt ["srv".toList, "data".toList] := ⟨rfl, by decide⟩
  have result : absolutePath inData "./$B//c/.." = "/srv/b" := by
    rw [absolutePath_of_expanded placed.workingDirectory expand?_inData]
    decide +kernel
  have plain : '$' ∉ "/srv/b".toList := by decide
  obtain ⟨-, -, fixed⟩ := (absolutePath_canonical inData "./$B//c/..").2 _ _ placed expand?_inData
  rw [result] at fixed
  exact ⟨placed, expand?_inData, result, plain, fixed plain⟩

end FillInStory
