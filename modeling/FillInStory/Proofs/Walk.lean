import FillInStory.Files.FileSystem
import Mathlib.Tactic.SplitIfs
import Mathlib.Tactic.ByContra

/-! # Walks through a file system

Where a path leads is decided name by name. `enter` is what one name does on the way: it moves the walk
to another location, and a link puts its own names before those still ahead and takes one of the links
that may be followed. Everything about longer walks comes from this: a walk that arrives somewhere goes
on from there as if it had begun there, and names that stand for the place itself make no difference on
the way. What a walk finds depends on the entries alone and not on their order.
-/

namespace FillInStory.FileSystem

variable {fs : FileSystem} {followLast : Bool} {links : Nat} {here mid final : Location}

/-- What one name does to a walk that goes on or follows the last link: how many links may still be
followed, where the walk is then, and the names that come before those ahead. -/
def enter (fs : FileSystem) (links : Nat) (here : Location) (name : FileName) :
    Except Fault (Nat × Location × List FileName) :=
  if !fs.isDirectoryAt here then .error .notDirectory
  else if name = [] then .ok (links, here, [])
  else if !fs.isSearchableAt here then .error .permissionDenied
  else if name = FileName.self then .ok (links, here, [])
  else if name = FileName.parent then .ok (links, here.dropLast, [])
  else if nameLimit < name.length then .error .nameTooLong
  else
    match fs.entryAt (here ++ [name]), links with
    | none, _ => .error .notFound
    | some (.link _), 0 => .error .tooManyLinks
    | some (.link target), links + 1 =>
      .ok (links, if target.head? = some slashByte then [] else here, pieces slashByte target)
    | some _, links => .ok (links, here ++ [name], [])

@[simp] theorem follow_nil (fs : FileSystem) (followLast : Bool) (links : Nat) (here : Location) :
    fs.follow followLast links here [] = .ok here := by
  cases links <;> rfl

/-- A walk does what its first name does, and then goes on. -/
theorem follow_cons {rest : List FileName} (goes : rest ≠ [] ∨ followLast = true) (fs : FileSystem)
    (links : Nat) (here : Location) (name : FileName) :
    fs.follow followLast links here (name :: rest) =
      (fs.enter links here name).bind fun (left, next, pushed) =>
        fs.follow followLast left next (pushed ++ rest) := by
  have follows : (rest.isEmpty && !followLast) = false := by
    rcases goes with more | last
    · simp [more]
    · simp [last]
  cases links <;> simp only [follow, walk, enter] <;> split_ifs <;> try rfl
  all_goals
    cases fs.entryAt (here ++ [name]) with
    | none => rfl
    | some entry => cases entry <;> simp_all [Except.bind, follow]

/-- A name uses up a link, or puts nothing before the names ahead. -/
theorem enter_links {links left : Nat} {here next : Location} {name : FileName} {pushed : List FileName}
    (entered : fs.enter links here name = .ok (left, next, pushed)) :
    (left = links ∧ pushed = []) ∨ left + 1 = links := by
  unfold enter at entered
  split_ifs at entered
  · cases entered; exact Or.inl ⟨rfl, rfl⟩
  · cases entered; exact Or.inl ⟨rfl, rfl⟩
  · cases entered; exact Or.inl ⟨rfl, rfl⟩
  · split at entered
    · cases entered
    · cases entered
    · cases entered; exact Or.inr rfl
    · cases entered; exact Or.inl ⟨rfl, rfl⟩

/-- What holds of a finished walk, and of a walk if it holds of what its first name leaves to be done,
holds of every walk. Either a link is used up on the way, or the names become fewer. -/
theorem walk_induction (fs : FileSystem) {motive : Nat → Location → List FileName → Prop}
    (finished : ∀ links here, motive links here [])
    (entering : ∀ links here name rest,
      (∀ left next pushed, fs.enter links here name = .ok (left, next, pushed) →
        motive left next (pushed ++ rest)) →
      motive links here (name :: rest))
    (links : Nat) (here : Location) (names : List FileName) : motive links here names := by
  induction links using Nat.strongRecOn generalizing here names with
  | ind links fewer =>
    induction names generalizing here with
    | nil => exact finished links here
    | cons name rest ih =>
      refine entering links here name rest fun left next pushed entered => ?_
      obtain ⟨rfl, rfl⟩ | used := enter_links entered
      · exact ih next
      · exact fewer left (by omega) next _

/-- A walk that arrives has taken its first name. -/
theorem exists_enter_of_follow_cons {name : FileName} {rest : List FileName}
    (goes : rest ≠ [] ∨ followLast = true)
    (arrived : fs.follow followLast links here (name :: rest) = .ok final) :
    ∃ left next pushed, fs.enter links here name = .ok (left, next, pushed) ∧
      fs.follow followLast left next (pushed ++ rest) = .ok final := by
  rw [follow_cons goes] at arrived
  cases entered : fs.enter links here name with
  | error fault => rw [entered] at arrived; cases arrived
  | ok outcome => exact ⟨_, _, _, rfl, by simpa [entered, Except.bind] using arrived⟩

/-- Only from a directory does a walk go on. -/
theorem follow_of_not_directory (barred : fs.isDirectoryAt here = false) {names : List FileName}
    (ahead : names ≠ []) : fs.follow followLast links here names = .error .notDirectory := by
  cases names with
  | nil => exact absurd rfl ahead
  | cons name rest => cases links <;> simp [follow, walk, barred]

theorem isDirectoryAt_of_follow {names : List FileName} (ahead : names ≠ [])
    (arrived : fs.follow followLast links here names = .ok final) : fs.isDirectoryAt here := by
  cases directory : fs.isDirectoryAt here with
  | true => rfl
  | false => cases (follow_of_not_directory directory ahead).symm.trans arrived

/-- Names are only looked up where that is allowed. -/
theorem isSearchableAt_of_enter {name : FileName} {outcome : Nat × Location × List FileName} (nonempty : name ≠ [])
    (entered : fs.enter links here name = .ok outcome) : fs.isSearchableAt here := by
  unfold enter at entered
  cases searchable : fs.isSearchableAt here with
  | true => rfl
  | false =>
    simp only [nonempty, searchable, Bool.not_false, ↓reduceIte] at entered
    split_ifs at entered

theorem isSearchableAt_of_follow {name : FileName} {rest : List FileName} (nonempty : name ≠ [])
    (goes : rest ≠ [] ∨ followLast = true)
    (arrived : fs.follow followLast links here (name :: rest) = .ok final) : fs.isSearchableAt here := by
  obtain ⟨left, next, pushed, entered, -⟩ := exists_enter_of_follow_cons goes arrived
  exact isSearchableAt_of_enter nonempty entered

/-- A walk that has arrived goes on from there, with the links that are left. -/
theorem exists_follow_append {names : List FileName}
    (arrived : fs.follow true links here names = .ok mid) :
    ∃ left, ∀ followLast more, more ≠ [] ∨ followLast = true →
      fs.follow followLast links here (names ++ more) = fs.follow followLast left mid more := by
  induction links, here, names using walk_induction fs with
  | finished links here =>
    rw [follow_nil] at arrived
    cases arrived
    exact ⟨links, fun _ _ _ => rfl⟩
  | entering links here name rest ih =>
    obtain ⟨left, next, pushed, entered, arrived⟩ := exists_enter_of_follow_cons (Or.inr rfl) arrived
    obtain ⟨kept, same⟩ := ih left next pushed entered arrived
    refine ⟨kept, fun followLast more goes => ?_⟩
    rw [List.cons_append, follow_cons (goes.imp_left fun ahead => by simp [ahead]), entered]
    simpa [Except.bind] using same followLast more goes

/-- A walk that arrives has come by every place on the way. -/
theorem exists_follow_of_append (names : List FileName) {more : List FileName}
    (goes : more ≠ [] ∨ followLast = true)
    (arrived : fs.follow followLast links here (names ++ more) = .ok final) :
    ∃ mid, fs.follow true links here names = .ok mid := by
  induction links, here, names using walk_induction fs with
  | finished links here => exact ⟨here, follow_nil ..⟩
  | entering links here name rest ih =>
    obtain ⟨left, next, pushed, entered, arrived⟩ :=
      exists_enter_of_follow_cons (goes.imp_left fun ahead => by simp [ahead]) arrived
    rw [follow_cons (Or.inr rfl), entered]
    exact ih left next pushed entered (by simpa using arrived)

/-- An empty name on the way makes no difference. -/
theorem follow_append_nil_cons {more : List FileName} (ahead : more ≠ []) (names : List FileName) :
    fs.follow followLast links here (names ++ [] :: more) =
      fs.follow followLast links here (names ++ more) := by
  induction links, here, names using walk_induction fs with
  | finished links here =>
    cases directory : fs.isDirectoryAt here with
    | true => simp [follow_cons (Or.inl ahead), enter, directory, Except.bind]
    | false => rw [follow_of_not_directory directory (by simp), follow_of_not_directory directory (by simpa)]
  | entering links here name rest ih =>
    rw [List.cons_append, List.cons_append, follow_cons (Or.inl (by simp)),
      follow_cons (Or.inl (by simp [ahead]))]
    cases entered : fs.enter links here name with
    | error fault => rfl
    | ok outcome =>
      obtain ⟨left, next, pushed⟩ := outcome
      simpa [Except.bind] using ih left next pushed entered

/-- Names that leave a walk where it is make no difference before other names. -/
theorem follow_append_of_enter {names more : List FileName} (goes : more ≠ [] ∨ followLast = true)
    (stays : ∀ name ∈ names, fs.enter links here name = .ok (links, here, [])) :
    fs.follow followLast links here (names ++ more) = fs.follow followLast links here more := by
  induction names with
  | nil => rfl
  | cons name rest ih =>
    rw [List.forall_mem_cons] at stays
    rw [List.cons_append, follow_cons (goes.imp_left fun ahead => by simp [ahead]), stays.1]
    exact ih stays.2

theorem enter_nil (directory : fs.isDirectoryAt here) (links : Nat) :
    fs.enter links here [] = .ok (links, here, []) := by
  simp [enter, directory]

/-- Names may only be looked up in a directory. -/
theorem isDirectoryAt_of_isSearchableAt (searchable : fs.isSearchableAt here) : fs.isDirectoryAt here := by
  unfold isSearchableAt modeAt? at searchable
  unfold isDirectoryAt
  split at searchable
  · next stands =>
    rw [stands]
    rfl
  · cases searchable

/-- Names that stand for the place itself make no difference before other names. -/
theorem follow_idle_append {names more : List FileName} (searchable : fs.isSearchableAt here)
    (goes : more ≠ [] ∨ followLast = true) (idle : ∀ name ∈ names, name = [] ∨ name = FileName.self) :
    fs.follow followLast links here (names ++ more) = fs.follow followLast links here more := by
  have directory := isDirectoryAt_of_isSearchableAt searchable
  refine follow_append_of_enter goes fun name member => ?_
  rcases idle name member with rfl | rfl
  · exact enter_nil directory links
  · simp [enter, directory, searchable]

/-- Walking over empty names alone stays where it is. -/
theorem follow_replicate_nil {n : Nat} (arrived : fs.follow true links here (List.replicate n []) = .ok final) :
    final = here := by
  cases n with
  | zero => simpa using arrived.symm
  | succ n =>
    have directory := isDirectoryAt_of_follow (by simp) arrived
    have stays : fs.follow true links here (List.replicate (n + 1) [] ++ []) = _ :=
      follow_append_of_enter (Or.inr rfl) fun _ member =>
        List.eq_of_mem_replicate member ▸ enter_nil directory links
    rw [List.append_nil, arrived, follow_nil] at stays
    exact Except.ok.inj stays

/-- A path leads to an entry that stands where the path ends. -/
theorem lookUp_eq_ok_iff {workingDirectory : Location} {path : Text} {entry : Entry} :
    fs.lookUp workingDirectory path = .ok entry ↔
      ∃ location, fs.resolve true workingDirectory path = .ok location ∧ fs.entryAt location = some entry := by
  unfold lookUp
  cases resolved : fs.resolve true workingDirectory path with
  | error fault => simp [Except.bind]
  | ok location => cases stands : fs.entryAt location <;> simp [Except.bind, stands]

/-! ## Independence of the order of the entries -/

/-- One file system keeps the entries of another one in some other order. -/
structure Rearranges (other fs : FileSystem) : Prop where
  entries : other.entries.entries.Perm fs.entries.entries
  rootMode : other.rootMode = fs.rootMode

section

variable {other : FileSystem} (same : other.Rearranges fs)
include same

theorem entryAt_of_perm : other.entryAt = fs.entryAt := by
  funext location
  simp only [entryAt, Dictionary.get?_eq_of_perm same.entries, same.rootMode]

theorem follow_of_perm : other.follow = fs.follow := by
  have walks (followLast restart) : other.walk followLast restart = fs.walk followLast restart := by
    funext here names
    induction names generalizing here with
    | nil => rfl
    | cons name rest ih =>
      simp only [walk, isDirectoryAt, isSearchableAt, modeAt?, entryAt_of_perm same, ih]
      rfl
  funext followLast links
  induction links with
  | zero => simp only [follow, walks]
  | succ links ih => simp only [follow, walks, ih]

theorem resolve_of_perm : other.resolve = fs.resolve := by
  funext followLast workingDirectory path
  simp only [resolve, follow_of_perm same]

theorem lookUp_of_perm : other.lookUp = fs.lookUp := by
  funext workingDirectory path
  simp only [lookUp, resolve_of_perm same, entryAt_of_perm same]

theorem isDirectory_of_perm : other.isDirectory = fs.isDirectory := by
  funext workingDirectory path
  simp only [isDirectory, lookUp_of_perm same]

theorem isFile_of_perm : other.isFile = fs.isFile := by
  funext workingDirectory path
  simp only [isFile, lookUp_of_perm same]

theorem leadsSomewhere_of_perm : other.leadsSomewhere = fs.leadsSomewhere := by
  funext workingDirectory path
  simp only [leadsSomewhere, lookUp_of_perm same]

theorem isPresent_of_perm : other.isPresent = fs.isPresent := by
  funext workingDirectory path
  simp only [isPresent, resolve_of_perm same, entryAt_of_perm same]

theorem readText_of_perm : other.readText = fs.readText := by
  funext workingDirectory path
  simp only [readText, read, lookUp_of_perm same]

end

end FillInStory.FileSystem
