import FillInStory.Proofs.AbsolutePath
import FillInStory.Proofs.Additions
import FillInStory.Settings.DataDirectories

/-! # A set-up that succeeds leaves private directories

Each data directory is accepted as it stands or created, and what is created for the later ones only adds
entries. So when the set-up has come to its end, every data directory is still what it was when it was
accepted: a directory at an absolute path that is private to its owner. That it is private rests on the library
that creates directories, that its path is absolute does not.
-/

namespace FillInStory

/-- An absolute path leads to a directory whose permission bits are those that make it private. -/
structure FileSystem.PrivateAt (fs : FileSystem) (path : Text) : Prop where
  absolute : path.head? = some '/'
  stands : ∃ mode, fs.lookUp [] path = .ok (.directory mode) ∧ mode % 0o1000 = 0o700

namespace FileSystem

variable {fs gs : FileSystem} {path : Text}

theorem PrivateAt.of_extends (priv : fs.PrivateAt path) (larger : gs.Extends fs) : gs.PrivateAt path := by
  obtain ⟨absolute, mode, found, bits⟩ := priv
  exact ⟨absolute, mode, larger.lookUp_eq found, bits⟩

/-- A private entry is a directory with the bits that make it private. -/
theorem isPrivate_iff (entry : Entry) :
    isPrivate entry = true ↔ ∃ mode, entry = .directory mode ∧ mode % 0o1000 = 0o700 := by
  cases entry with
  | directory mode =>
    constructor
    · exact fun bits => ⟨mode, rfl, of_decide_eq_true bits⟩
    · rintro ⟨_, ⟨⟩, bits⟩
      exact decide_eq_true bits
  | _ => simp [isPrivate]

theorem privateAt_of_lookUp {entry : Entry} (absolute : path.head? = some '/') (found : fs.lookUp [] path = .ok entry)
    (priv : isPrivate entry = true) : fs.PrivateAt path := by
  obtain ⟨mode, rfl, bits⟩ := (isPrivate_iff entry).mp priv
  exact ⟨absolute, mode, found, bits⟩

end FileSystem

namespace DataDirectories

variable {make : DirectoryMaker} {mistrust : Mistrust} {fs changed : FileSystem} {directories : DataDirectories}
  {role : DirectoryRole} {path : Text}

@[simp] theorem path_root (directories : DataDirectories) : directories.path .root = directories.root :=
  List.append_nil _

/-- A directory is left as it is, or made where its path leads nowhere. -/
theorem prepare_leaves_or_makes (make : DirectoryMaker) (fs : FileSystem) (role : DirectoryRole) (path : Text) :
    (prepare make fs role path).1 = fs ∨
      ∃ fault, fs.lookUp [] path = .error fault ∧ (prepare make fs role path).1 = (make fs path).1 := by
  unfold prepare
  split
  · exact Or.inl rfl
  split
  · exact Or.inl rfl
  · next fault missing => exact Or.inr ⟨fault, missing, rfl⟩

theorem extends_prepare (lawful : make.Lawful) (fs : FileSystem) (role : DirectoryRole) (path : Text) :
    (prepare make fs role path).1.Extends fs := by
  rcases prepare_leaves_or_makes make fs role path with left | ⟨fault, missing, made⟩
  · rw [left]
    exact FileSystem.Extends.refl fs
  · rw [made]
    exact (lawful.adds missing).keeps

/-- Only a directory with an absolute path is accepted or created. -/
theorem absolute_of_prepare (prepared : prepare make fs role path = (changed, none)) : path.head? = some '/' := by
  unfold prepare at prepared
  split at prepared
  · cases prepared
  · next absolute => exact not_not.mp absolute

/-- A directory that is accepted or created is private. -/
theorem privateAt_of_prepare (lawful : make.Lawful) (prepared : prepare make fs role path = (changed, none)) :
    changed.PrivateAt path := by
  have absolute := absolute_of_prepare prepared
  unfold prepare at prepared
  rw [if_neg (not_not.mpr absolute)] at prepared
  split at prepared
  · next entry found =>
    split_ifs at prepared with priv <;> cases prepared
    exact FileSystem.privateAt_of_lookUp absolute found priv
  · next fault missing =>
    obtain ⟨rfl, success⟩ := Prod.mk.inj prepared
    obtain ⟨entry, found, priv⟩ := lawful.makes missing (Option.map_eq_none_iff.mp success)
    exact FileSystem.privateAt_of_lookUp absolute found priv

/-- In a set-up that succeeds every directory is accepted or created at some point, and the later ones after it. -/
theorem exists_prepare_of_prepareAll {roles : List DirectoryRole}
    (prepared : prepareAll make directories fs roles = (changed, none)) (role : DirectoryRole) (member : role ∈ roles) :
    ∃ before after later, prepare make before role (directories.path role) = (after, none) ∧
      prepareAll make directories after later = (changed, none) := by
  induction roles generalizing fs with
  | nil => cases member
  | cons first roles ih =>
    unfold prepareAll at prepared
    split at prepared
    · next between accepted =>
      rcases List.mem_cons.mp member with rfl | member
      · exact ⟨fs, between, roles, accepted, prepared⟩
      · exact ih prepared member
    · cases prepared

theorem extends_prepareAll (lawful : make.Lawful) (directories : DataDirectories) (fs : FileSystem)
    (roles : List DirectoryRole) : (prepareAll make directories fs roles).1.Extends fs := by
  induction roles generalizing fs with
  | nil => exact FileSystem.Extends.refl fs
  | cons role roles ih =>
    have first := extends_prepare lawful fs role (directories.path role)
    unfold prepareAll
    split
    · next between prepared =>
      rw [prepared] at first
      exact (ih between).trans first
    · next between e prepared =>
      rw [prepared] at first
      exact first

/-- What is set up later leaves the directories that were accepted before. -/
theorem privateAt_of_prepareAll (lawful : make.Lawful) {roles : List DirectoryRole}
    (prepared : prepareAll make directories fs roles = (changed, none)) :
    changed.Extends fs ∧ ∀ role ∈ roles, changed.PrivateAt (directories.path role) := by
  have larger := extends_prepareAll lawful directories fs roles
  rw [prepared] at larger
  refine ⟨larger, fun role member => ?_⟩
  obtain ⟨before, after, later, accepted, rest⟩ := exists_prepare_of_prepareAll prepared role member
  have keeps := extends_prepareAll lawful directories after later
  rw [rest] at keeps
  exact (privateAt_of_prepare lawful accepted).of_extends keeps

theorem mem_all (role : DirectoryRole) : role ∈ DirectoryRole.all := by cases role <;> decide

/-- A set-up succeeds if there is a way to make directories and every directory can be had. -/
theorem setUp_eq_ok_iff {s : Surroundings} {argument : Option Text} :
    setUp mistrust s fs argument = (changed, .ok directories) ↔
      directories = ⟨resolveRoot s argument⟩ ∧ ∃ make, mistrust fs (absolutePath s "~") systemGroup = .ok make ∧
        prepareAll make directories fs DirectoryRole.all = (changed, none) := by
  constructor
  · intro success
    unfold setUp at success
    split at success
    · cases success
    next make offered =>
    dsimp only at success
    split at success
    · next between prepared =>
      cases success
      exact ⟨rfl, make, offered, prepared⟩
    · cases success
  · rintro ⟨rfl, make, offered, prepared⟩
    unfold setUp
    rw [offered]
    simp only [prepared]

/-- Where the home directory is the root of the file system, there is one, and the directories decide. -/
theorem setUp_of_prepareAll {s : Surroundings} {argument : Option Text} {root : Text} (fs : FileSystem)
    (placed : s.workingDirectory = some []) (home : s.home = "/") (named : resolveRoot s argument = root)
    (prepared : (prepareAll (FileSystem.makeDirectory []) ⟨root⟩ fs DirectoryRole.all).2 = none) :
    setUp FileSystem.mistrust s fs argument =
      ((prepareAll (FileSystem.makeDirectory []) ⟨root⟩ fs DirectoryRole.all).1, .ok ⟨root⟩) := by
  have tilde : absolutePath s "~" = "/" := by
    have canonical : Location.CanonicalPath [] s.home := ⟨nofun, home ▸ rfl⟩
    rw [absolutePath_tilde placed canonical, home]
  refine setUp_eq_ok_iff.mpr ⟨by rw [named], _, ?_, Prod.ext rfl prepared⟩
  rw [tilde]
  rfl

/-- A set-up that succeeds has taken absolute paths only, whatever makes its directories. -/
theorem absolute_of_setUp {s : Surroundings} {argument : Option Text}
    (success : setUp mistrust s fs argument = (changed, .ok directories)) (role : DirectoryRole) :
    (directories.path role).head? = some '/' := by
  obtain ⟨-, make, -, prepared⟩ := setUp_eq_ok_iff.mp success
  obtain ⟨before, after, later, accepted, -⟩ := exists_prepare_of_prepareAll prepared role (mem_all role)
  exact absolute_of_prepare accepted

/-- A set-up that succeeds has added entries only, and each of its directories is private. -/
theorem privateAt_of_setUp (lawful : mistrust.Lawful) {s : Surroundings} {argument : Option Text}
    (success : setUp mistrust s fs argument = (changed, .ok directories)) :
    directories = ⟨resolveRoot s argument⟩ ∧ changed.Extends fs ∧
      ∀ role, changed.PrivateAt (directories.path role) := by
  obtain ⟨named, make, offered, prepared⟩ := setUp_eq_ok_iff.mp success
  obtain ⟨larger, each⟩ := privateAt_of_prepareAll (lawful.makers offered) prepared
  exact ⟨named, larger, fun role => each role (mem_all role)⟩

end DataDirectories

end FillInStory
