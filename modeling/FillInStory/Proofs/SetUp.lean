import FillInStory.Proofs.DataDirectories
import FillInStory.Proofs.DirectoryMaking

/-! # Setting up the data directories only adds, and once

Whatever the set-up of the data directories comes to, every entry stays as it is, and what is new are private
directories: some on the way to the root directory, and those that stand in the root directory under the names of
the roles. All this rests on what is relied on of the library that makes them, `Mistrust.Lawful`. A set-up that
succeeds has nothing to do the next time. One that fails at a directory has not come to the later ones, so none of
these is new, unless the way to the root directory as it is written leads through it (`setUp_only_adds`).
-/

namespace FillInStory

namespace DirectoryRole

/-- The names on the way from the root directory to the directory with a role. -/
def names (role : DirectoryRole) : List FileName := (Location.namesOf role.subpath).tail

theorem names_injective {role other : DirectoryRole} (same : role.names = other.names) : role = other := by
  cases role <;> cases other <;> first | rfl | exact absurd same (by decide)

theorem exists_names_eq {role : DirectoryRole} (child : role ≠ .root) : ∃ name, role.names = [name] := by
  cases role with
  | root => exact absurd rfl child
  | config | logs | certs | stories => exact ⟨_, rfl⟩

end DirectoryRole

/-- An error is about the directory with a role. The paths of two roles are never the same. -/
def DirectoryError.Concerns (directories : DataDirectories) (role : DirectoryRole) (e : DirectoryError) : Prop :=
  e = .notAbsolute role (directories.path role) ∨ e = .notDirectory role (directories.path role) ∨
    e = .notPrivate role (directories.path role) ∨ ∃ reason, e = .notCreated (directories.path role) reason

namespace DataDirectories

variable {make : DirectoryMaker} {mistrust : Mistrust} {s : Surroundings} {here location : Location}
  {fs changed : FileSystem} {directories : DataDirectories} {role : DirectoryRole} {roles : List DirectoryRole}
  {path : Text} {e : DirectoryError}

/-- Where the entry of the directory with a role belongs: for the root directory where its path leads, and for the
others below that. -/
def Place (directories : DataDirectories) (fs : FileSystem) (role : DirectoryRole) (location : Location) : Prop :=
  ∃ here, fs.resolve true [] directories.root = .ok here ∧ location = here ++ role.names

/-- The directory with a role has come into being between one file system and another. -/
structure New (directories : DataDirectories) (fs changed : FileSystem) (role : DirectoryRole) (location : Location) :
    Prop where
  place : directories.Place changed role location
  absent : fs.entryAt location = none
  stands : (changed.entryAt location).isSome

theorem namesOf_path (directories : DataDirectories) (role : DirectoryRole) :
    Location.namesOf (directories.path role) = Location.namesOf directories.root ++ role.names := by
  cases role with
  | root => rw [path_root]; exact (List.append_nil _).symm
  | config | logs | certs | stories => exact Location.namesOf_append_cons directories.root _

/-! ## One directory -/

theorem addsPrivate_prepare (lawful : make.Lawful) (fs : FileSystem) (role : DirectoryRole) (path : Text) :
    (prepare make fs role path).1.AddsPrivate fs ((prepare make fs role path).1.OnWay path) := by
  rcases prepare_leaves_or_makes make fs role path with left | ⟨fault, missing, made⟩
  · rw [left]
    exact FileSystem.AddsPrivate.refl fs _
  · rw [made]
    exact (lawful.adds missing).mono fun location made => made.onWay

/-- In a root directory that is there at most the directory itself is new. -/
theorem addsPrivate_prepare_child (lawful : make.Lawful) (resolved : fs.resolve true [] directories.root = .ok here)
    (directory : fs.isDirectoryAt here) (child : role ≠ .root) :
    (prepare make fs role (directories.path role)).1.AddsPrivate fs (· = here ++ role.names) := by
  obtain ⟨name, only⟩ := DirectoryRole.exists_names_eq child
  have names := namesOf_path directories role
  rw [only] at names ⊢
  rcases prepare_leaves_or_makes make fs role (directories.path role) with left | ⟨fault, missing, made⟩
  · rw [left]
    exact FileSystem.AddsPrivate.refl fs _
  · rw [made]
    exact lawful.addsPrivate_child missing names resolved directory

/-- A private directory is accepted as it stands. -/
theorem prepare_of_privateAt (priv : fs.PrivateAt path) (make : DirectoryMaker) (role : DirectoryRole) :
    prepare make fs role path = (fs, none) := by
  obtain ⟨absolute, mode, found, bits⟩ := priv
  have accepted : FileSystem.isPrivate (.directory mode) := (FileSystem.isPrivate_iff _).mpr ⟨mode, rfl, bits⟩
  simp [prepare, absolute, found, accepted]

theorem concerns_of_prepare (failed : prepare make fs role (directories.path role) = (changed, some e)) :
    e.Concerns directories role := by
  unfold prepare at failed
  unfold DirectoryError.Concerns
  split at failed
  · cases failed
    exact Or.inl rfl
  split at failed
  · split_ifs at failed <;> cases failed
    · exact Or.inr (Or.inr (Or.inl rfl))
    · exact Or.inr (Or.inl rfl)
  · obtain ⟨reason, -, rfl⟩ := Option.map_eq_some_iff.mp (Prod.mk.inj failed).2
    exact Or.inr (Or.inr (Or.inr ⟨reason, rfl⟩))

/-! ## All directories -/

theorem prepareAll_of_privateAt (priv : ∀ role ∈ roles, fs.PrivateAt (directories.path role))
    (make : DirectoryMaker) : prepareAll make directories fs roles = (fs, none) := by
  induction roles with
  | nil => rfl
  | cons role roles ih =>
    rw [List.forall_mem_cons] at priv
    rw [prepareAll, prepare_of_privateAt priv.1]
    exact ih priv.2

/-- Where it fails, the set-up has taken the roles up to the one that the error is about. -/
theorem exists_stop_of_prepareAll (failed : prepareAll make directories fs roles = (changed, some e)) :
    ∃ earlier role later, roles = earlier ++ role :: later ∧ e.Concerns directories role ∧
      (prepareAll make directories fs (earlier ++ [role])).1 = changed := by
  induction roles generalizing fs with
  | nil => cases failed
  | cons role roles ih =>
    unfold prepareAll at failed
    split at failed
    · next between first =>
      obtain ⟨earlier, last, later, rfl, concerns, same⟩ := ih failed
      refine ⟨role :: earlier, last, later, rfl, concerns, ?_⟩
      rw [List.cons_append, prepareAll, first]
      exact same
    · next between other first =>
      cases failed
      refine ⟨[], role, roles, rfl, concerns_of_prepare first, ?_⟩
      rw [List.nil_append, prepareAll, first]

/-- In a root directory that is there the directories of the roles are all that can be new. -/
theorem addsPrivate_prepareAll_children (lawful : make.Lawful)
    (resolved : fs.resolve true [] directories.root = .ok here) (directory : fs.isDirectoryAt here)
    (children : ∀ role ∈ roles, role ≠ .root) :
    (prepareAll make directories fs roles).1.AddsPrivate fs fun location =>
      ∃ role ∈ roles, location = here ++ role.names := by
  induction roles generalizing fs with
  | nil => exact FileSystem.AddsPrivate.refl fs _
  | cons role roles ih =>
    rw [List.forall_mem_cons] at children
    have first := (addsPrivate_prepare_child lawful resolved directory children.1).mono fun location same =>
      (⟨role, List.mem_cons_self, same⟩ : ∃ other ∈ role :: roles, location = here ++ other.names)
    unfold prepareAll
    split
    · next between prepared =>
      rw [prepared] at first
      have still : between.isDirectoryAt here := by rwa [FileSystem.isDirectoryAt, first.keeps.entryAt_eq directory]
      refine ((ih (first.keeps.resolve_eq resolved) still children.2).mono ?_).trans first
      rintro location ⟨other, member, same⟩
      exact ⟨other, List.mem_cons_of_mem _ member, same⟩
    · next between other prepared =>
      rw [prepared] at first
      exact first

/-- A private directory stands where its path leads. -/
theorem exists_resolve_of_privateAt (priv : fs.PrivateAt path) :
    ∃ here, fs.resolve true [] path = .ok here ∧ fs.isDirectoryAt here := by
  obtain ⟨-, mode, found, -⟩ := priv
  obtain ⟨here, resolved, stands⟩ := FileSystem.lookUp_eq_ok_iff.mp found
  exact ⟨here, resolved, by rw [FileSystem.isDirectoryAt, stands]; rfl⟩

/-- The root directory comes first. What is new is on the way to it, or the directory of another role in it. -/
theorem addsPrivate_prepareAll (lawful : make.Lawful) (directories : DataDirectories) (fs : FileSystem)
    (children : ∀ role ∈ roles, role ≠ .root) :
    (prepareAll make directories fs (.root :: roles)).1.AddsPrivate fs fun location =>
      (prepareAll make directories fs (.root :: roles)).1.OnWay directories.root location ∨
        ∃ role ∈ roles, directories.Place (prepareAll make directories fs (.root :: roles)).1 role location := by
  have first := addsPrivate_prepare lawful fs .root (directories.path .root)
  rw [path_root] at first
  unfold prepareAll
  rw [path_root]
  split
  · next between prepared =>
    rw [prepared] at first
    obtain ⟨here, resolved, directory⟩ := exists_resolve_of_privateAt (privateAt_of_prepare lawful prepared)
    have others := addsPrivate_prepareAll_children lawful resolved directory children
    refine (others.mono ?_).trans (first.mono ?_)
    · rintro location ⟨role, member, same⟩
      exact Or.inr ⟨role, member, here, others.keeps.resolve_eq resolved, same⟩
    · rintro location ⟨front, part, leads⟩
      exact Or.inl ⟨front, part, others.keeps.follow_eq leads⟩
  · next between other prepared =>
    rw [prepared] at first
    exact first.mono fun location => Or.inl

/-- The places of two roles are two places. -/
theorem Place.unique {other : DirectoryRole} (first : directories.Place fs role location)
    (second : directories.Place fs other location) : role = other := by
  obtain ⟨here, resolved, rfl⟩ := first
  obtain ⟨place, found, same⟩ := second
  obtain rfl : here = place := Except.ok.inj (resolved.symm.trans found)
  exact DirectoryRole.names_injective (List.append_cancel_left same)

/-- When there is a way to make directories, they decide what the set-up comes to. -/
theorem setUp_of_maker {argument : Option Text} (offered : mistrust fs (absolutePath s "~") systemGroup = .ok make) :
    setUp mistrust s fs argument =
      ((prepareAll make ⟨resolveRoot s argument⟩ fs DirectoryRole.all).1,
        (prepareAll make ⟨resolveRoot s argument⟩ fs DirectoryRole.all).2.elim
          (.ok ⟨resolveRoot s argument⟩) .error) := by
  unfold setUp
  rw [offered]
  dsimp only
  split
  · next prepared => rw [prepared]; rfl
  · next prepared => rw [prepared]; rfl

/-- A set-up that has succeeded has nothing left to do. -/
theorem setUp_again (lawful : mistrust.Lawful) {argument : Option Text}
    (success : setUp mistrust s fs argument = (changed, .ok directories)) :
    setUp mistrust s changed argument = (changed, .ok directories) := by
  obtain ⟨rfl, keeps, priv⟩ := privateAt_of_setUp lawful success
  obtain ⟨-, make, offered, -⟩ := setUp_eq_ok_iff.mp success
  obtain ⟨other, offered⟩ := lawful.persists offered keeps
  exact setUp_eq_ok_iff.mpr ⟨rfl, other, offered, prepareAll_of_privateAt (fun role _ => priv role) other⟩

/-- The directory of a role that the set-up has not come to is new only on the way to the root directory. -/
theorem New.onWay (lawful : make.Lawful) {earlier later : List DirectoryRole} {other : DirectoryRole}
    (split : DirectoryRole.all = earlier ++ role :: later)
    (taken : (prepareAll make directories fs (earlier ++ [role])).1 = changed) (behind : other ∈ later)
    (new : directories.New fs changed other location) : changed.OnWay directories.root location := by
  obtain ⟨children, same⟩ : ∃ children, earlier ++ [role] = .root :: children := by
    cases earlier with
    | nil => exact ⟨[], congrArg (· :: []) (List.cons.inj split).1.symm⟩
    | cons first rest => exact ⟨rest ++ [role], congrArg (· :: (rest ++ [role])) (List.cons.inj split).1.symm⟩
  have whole : DirectoryRole.all = .root :: (children ++ later) := by
    rw [split, ← List.cons_append, ← same, List.append_assoc, List.singleton_append]
  have distinct : (DirectoryRole.root :: (children ++ later)).Nodup := whole ▸ by decide
  rw [List.nodup_cons, List.mem_append, not_or] at distinct
  obtain ⟨⟨noRoot, -⟩, distinct⟩ := distinct
  rw [same] at taken
  subst taken
  obtain ⟨entry, stands⟩ := Option.isSome_iff_exists.mp new.stands
  have adds := addsPrivate_prepareAll lawful directories fs fun child member root => noRoot (root ▸ member)
  rcases (adds.added location entry new.absent stands).2 with onWay | ⟨child, member, place⟩
  · exact onWay
  · obtain rfl := new.place.unique place
    exact absurd rfl ((List.nodup_append.mp distinct).2.2 _ member _ behind)

/-- A set-up of the data directories changes and removes nothing. It adds private directories, on the way to the
root directory as it is written or as the directory of a role. If it succeeds, all of them are private, and to set
them up once more succeeds and adds nothing. If it fails, then for want of a way to make directories, with nothing
added, or at the directory of a role, and no directory of a later role is new that is not on the way to the root
directory. -/
theorem setUp_only_adds (lawful : mistrust.Lawful) (s : Surroundings) (fs : FileSystem) (argument : Option Text) :
    ∃ directories changed outcome, directories = ⟨resolveRoot s argument⟩ ∧
      setUp mistrust s fs argument = (changed, outcome) ∧
      changed.AddsPrivate fs (fun location => changed.OnWay directories.root location ∨
        ∃ role, directories.Place changed role location) ∧
      (∀ found, outcome = .ok found → found = directories ∧
        (∀ role, changed.PrivateAt (directories.path role)) ∧
        setUp mistrust s changed argument = (changed, .ok directories)) ∧
      ∀ e, outcome = .error e → (∃ reason, e = .mistrust reason ∧ changed = fs) ∨
        ∃ earlier role later, DirectoryRole.all = earlier ++ role :: later ∧ e.Concerns directories role ∧
          ∀ other ∈ later, ∀ location, directories.New fs changed other location →
            changed.OnWay directories.root location := by
  cases offered : mistrust fs (absolutePath s "~") systemGroup with
  | error reason =>
    have result : setUp mistrust s fs argument = (fs, .error (.mistrust reason)) := by unfold setUp; rw [offered]
    refine ⟨_, fs, _, rfl, result, .refl fs _, nofun, fun e same => Or.inl ⟨reason, ?_, rfl⟩⟩
    exact (Except.error.inj same).symm
  | ok make =>
    have lawfully := lawful.makers offered
    have result : setUp mistrust s fs argument = _ := setUp_of_maker offered
    refine ⟨_, _, _, rfl, result, ?_, ?_, ?_⟩
    · refine (addsPrivate_prepareAll lawfully _ fs (by decide)).mono fun location place => ?_
      exact place.imp_right fun ⟨role, _, place⟩ => ⟨role, place⟩
    · intro directories success
      rw [success] at result
      obtain ⟨rfl, -, priv⟩ := privateAt_of_setUp lawful result
      exact ⟨rfl, priv, setUp_again lawful result⟩
    · intro e failure
      cases ending : (prepareAll make ⟨resolveRoot s argument⟩ fs DirectoryRole.all).2 with
      | none => rw [ending] at failure; cases failure
      | some other =>
        rw [ending] at failure
        obtain rfl : other = e := Except.error.inj failure
        obtain ⟨earlier, role, later, split, concerns, taken⟩ := exists_stop_of_prepareAll (Prod.ext rfl ending)
        refine Or.inr ⟨earlier, role, later, split, concerns, fun other behind location new => ?_⟩
        exact new.onWay lawfully split taken behind

/-- A place where `/x/store` is to be the root directory. -/
def upland : Surroundings := ⟨Dictionary.ofList [(rootVariable, "/x/store")], some [], "/"⟩

theorem resolveRoot_upland : resolveRoot upland none = "/x/store" := by
  have canonical : Location.CanonicalPath [Text.utf8 "x", Text.utf8 "store"] "/x/store" :=
    ⟨by decide, by decide +kernel⟩
  exact canonical.absolutePath_eq (by decide) upland

/-- In an empty file system the set-up makes the root directory and `/x` on the way to it, and is done for good. -/
theorem setUp_only_adds_upland :
    FileSystem.mistrust.Lawful ∧ ∃ changed,
      setUp FileSystem.mistrust upland FileSystem.empty none = (changed, .ok ⟨"/x/store"⟩) ∧
        changed.lookUp [] "/x" = .ok (.directory 0o700) ∧
          (∀ role, changed.PrivateAt (DataDirectories.path ⟨"/x/store"⟩ role)) ∧
          setUp FileSystem.mistrust upland changed none = (changed, .ok ⟨"/x/store"⟩) := by
  have created := setUp_of_prepareAll FileSystem.empty rfl rfl resolveRoot_upland (by decide +kernel)
  obtain ⟨_, changed, outcome, rfl, result, -, success, -⟩ :=
    setUp_only_adds FileSystem.lawful_mistrust upland FileSystem.empty none
  obtain ⟨rfl, rfl⟩ := Prod.mk.inj (created.symm.trans result)
  obtain ⟨-, priv, again⟩ := success _ rfl
  rw [resolveRoot_upland] at priv again
  exact ⟨FileSystem.lawful_mistrust, _, created, by decide +kernel, priv, again⟩

/-- A private directory `/x` in which a file has the name of the config directory. -/
def cluttered : FileSystem :=
  (FileSystem.empty.put [Text.utf8 "x"] (.directory 0o700)).put [Text.utf8 "x", Text.utf8 "config"] (.file [])

/-- A place where the path of the root directory cannot be made absolute, for want of a variable, and leads to `/x`
by way of the logs directory. -/
def detour : Surroundings := ⟨Dictionary.ofList [(rootVariable, "/x/$y/../logs/..")], some [], "/"⟩

/-- The set-up fails at the config directory and yet the logs directory is new, since it is on the way to the root
directory. -/
theorem setUp_adds_later_detour :
    (∃ changed, setUp FileSystem.mistrust detour cluttered none =
        (changed, .error (.notDirectory .config "/x/$y/../logs/../config")) ∧
      cluttered.lookUp [] "/x/logs" = .error .notFound ∧ changed.lookUp [] "/x/logs" = .ok (.directory 0o700) ∧
      New ⟨"/x/$y/../logs/.."⟩ cluttered changed .logs [Text.utf8 "x", Text.utf8 "logs"]) ∧
    ¬ ∀ (mistrust : Mistrust) (s : Surroundings) (fs changed : FileSystem) (argument : Option Text)
        (e : DirectoryError) (earlier later : List DirectoryRole) (role : DirectoryRole), mistrust.Lawful →
      setUp mistrust s fs argument = (changed, .error e) → DirectoryRole.all = earlier ++ role :: later →
        e.Concerns ⟨resolveRoot s argument⟩ role → ∀ other ∈ later, ∀ location,
          ¬ New ⟨resolveRoot s argument⟩ fs changed other location := by
  have missing : (Expansion.reference detour.environment "y/../logs/..").1 = none := by decide +kernel
  have dollar : Expansion.variablesIn detour.environment ('$' :: "y/../logs/..".toList) = none := by
    rw [Expansion.variablesIn, if_pos rfl, missing]
    rfl
  have unset : Expansion.expand? detour "/x/$y/../logs/.." = none := by
    change (Expansion.variablesIn detour.environment ('/' :: 'x' :: '/' :: '$' :: "y/../logs/..".toList)).map _ = none
    rw [Expansion.variablesIn_cons_of_ne _ (by decide), Expansion.variablesIn_cons_of_ne _ (by decide),
      Expansion.variablesIn_cons_of_ne _ (by decide), dollar]
    rfl
  have named : resolveRoot detour none = "/x/$y/../logs/.." := absolutePath_of_unset unset
  have home : Location.CanonicalPath [] detour.home := ⟨by simp, rfl⟩
  have offered : FileSystem.mistrust cluttered (absolutePath detour "~") systemGroup =
      .ok (FileSystem.makeDirectory []) := by
    rw [absolutePath_tilde rfl home]
    rfl
  have result : setUp FileSystem.mistrust detour cluttered none = _ := setUp_of_maker offered
  rw [named] at result
  have ending : (prepareAll (FileSystem.makeDirectory []) ⟨"/x/$y/../logs/.."⟩ cluttered DirectoryRole.all).2 =
      some (.notDirectory .config "/x/$y/../logs/../config") := by decide +kernel
  rw [ending] at result
  generalize made :
    (prepareAll (FileSystem.makeDirectory []) ⟨"/x/$y/../logs/.."⟩ cluttered DirectoryRole.all).1 = changed at result
  have new : New ⟨"/x/$y/../logs/.."⟩ cluttered changed .logs [Text.utf8 "x", Text.utf8 "logs"] := by
    subst made
    exact ⟨⟨[Text.utf8 "x"], by decide +kernel, by decide⟩, by decide +kernel, by decide +kernel⟩
  refine ⟨⟨changed, result, by decide +kernel, ?_, new⟩, fun claim => ?_⟩
  · subst made
    decide +kernel
  · have later : DirectoryRole.logs ∈ [.logs, .certs, .stories] := List.mem_cons_self
    refine claim FileSystem.mistrust detour cluttered changed none _ [.root] _ .config FileSystem.lawful_mistrust result
      rfl ?_ .logs later [Text.utf8 "x", Text.utf8 "logs"] ?_
    · rw [named]
      exact Or.inr (Or.inl rfl)
    · rw [named]
      exact new

end DataDirectories

end FillInStory
