import FillInStory.Proofs.Additions

/-! # Directories made name by name

`Advance` says what one name does on the way to a directory that is to be made: it bars the way, or it is taken as
on any walk, or a directory is made for it where nothing stood. Along names that lead somewhere already nothing is
made (`extendFollowing_append`). So whatever is new when the way has been gone stands on this way and is private to
its owner (`addsPrivate_extendFollowing`), which makes `FileSystem.mistrust` a lawful library (`lawful_mistrust`).
-/

namespace FillInStory.FileSystem

variable {fs : FileSystem} {home here mid : Location} {name : FileName} {names : List FileName} {links : Nat}

/-! ## One name -/

theorem isSearchableAt_of_isTrusted (trusted : fs.isTrusted home here) : fs.isSearchableAt here := by
  unfold isTrusted at trusted
  unfold isSearchableAt
  cases stands : fs.modeAt? here with
  | none => rw [stands] at trusted; cases trusted
  | some mode =>
    rw [stands, Option.any_some, Bool.and_eq_true] at trusted
    exact trusted.1

/-- What one name does on a way along which the missing directories are made. -/
inductive Advance (home : Location) (links : Nat) (fs : FileSystem) (here : Location) (name : FileName) : Prop
  | barred (stops : ∀ rest, extendFollowing home links fs here (name :: rest) = (fs, false))
  | entered {left : Nat} {next : Location} {pushed : List FileName}
    (takes : fs.enter links here name = .ok (left, next, pushed))
    (leads : ∃ many final, fs.follow true many next pushed = .ok final)
    (goesOn : ∀ rest, extendFollowing home links fs here (name :: rest) =
      extendFollowing home left fs next (pushed ++ rest))
  | made {created : FileSystem} (missing : ∀ many, fs.enter many here name = .error .notFound)
    (adds : created.AddsPrivate fs (· = here ++ [name]))
    (takes : created.enter links here name = .ok (links, here ++ [name], []))
    (goesOn : ∀ rest, extendFollowing home links fs here (name :: rest) =
      extendFollowing home links created (here ++ [name]) rest)

/-- A link is followed if it leads somewhere. -/
theorem advance_link {target : List UInt8} (trusted : fs.isTrusted home here)
    (idle : name ≠ [] ∧ name ≠ FileName.self) (up : name ≠ FileName.parent) (short : ¬ nameLimit < name.length)
    (stands : fs.entryAt (here ++ [name]) = some (.link target)) : Advance home links fs here name := by
  have searchable := isSearchableAt_of_isTrusted trusted
  have directory := isDirectoryAt_of_isSearchableAt searchable
  cases links with
  | zero => exact .barred fun rest => by simp [extendFollowing, extend, trusted, idle, up, short, stands]
  | succ links =>
    have takes (many : Nat) : fs.enter (many + 1) here name =
        .ok (many, if target.head? = some slashByte then [] else here, pieces slashByte target) := by
      simp [enter, directory, searchable, idle, up, short, stands]
    cases follows : fs.follow true linkLimit here [name] with
    | error fault =>
      exact .barred fun rest => by
        simp [extendFollowing, extend, trusted, idle, up, short, stands, follows, Except.toOption]
    | ok final =>
      refine .entered (takes links) ⟨39, final, ?_⟩ fun rest => by
        simp [extendFollowing, extend, trusted, idle, up, short, stands, follows, Except.toOption]
      rw [follow_cons (Or.inr rfl), linkLimit, takes 39] at follows
      simpa [Except.bind] using follows

theorem advance (home : Location) (links : Nat) (fs : FileSystem) (here : Location) (name : FileName) :
    Advance home links fs here name := by
  cases trusted : fs.isTrusted home here with
  | false => exact .barred fun rest => by cases links <;> simp [extendFollowing, extend, trusted]
  | true =>
  have searchable := isSearchableAt_of_isTrusted trusted
  have directory := isDirectoryAt_of_isSearchableAt searchable
  by_cases idle : name = [] ∨ name = FileName.self
  · have takes : fs.enter links here name = .ok (links, here, []) := by
      rcases idle with rfl | rfl
      · exact enter_nil directory links
      · simp [enter, directory, searchable]
    refine .entered takes ⟨0, here, follow_nil ..⟩ fun rest => ?_
    cases links <;> simp [extendFollowing, extend, trusted, idle]
  rw [not_or] at idle
  by_cases up : name = FileName.parent
  · subst up
    have takes : fs.enter links here FileName.parent = .ok (links, here.dropLast, []) := by
      simp [enter, directory, searchable, idle]
    refine .entered takes ⟨0, here.dropLast, follow_nil ..⟩ fun rest => ?_
    cases links <;> simp [extendFollowing, extend, trusted, idle]
  by_cases long : nameLimit < name.length
  · exact .barred fun rest => by cases links <;> simp [extendFollowing, extend, trusted, idle, up, long]
  cases stands : fs.entryAt (here ++ [name]) with
  | none =>
    cases added : fs.addDirectory? here name privateMode with
    | none =>
      exact .barred fun rest => by
        cases links <;> simp [extendFollowing, extend, trusted, idle, up, long, stands, added]
    | some created =>
      obtain ⟨adds, mode, new⟩ := addsPrivate_of_addDirectory? stands added
      have still := adds.keeps.entryAt_eq directory
      have able : created.isDirectoryAt here ∧ created.isSearchableAt here :=
        ⟨by rwa [isDirectoryAt, still], by rwa [isSearchableAt, modeAt?, still]⟩
      refine .made (fun many => ?_) adds ?_ fun rest => ?_
      · simp [enter, directory, searchable, idle, up, long, stands]
      · simp [enter, able, idle, up, long, new]
      · cases links <;> simp [extendFollowing, extend, trusted, idle, up, long, stands, added]
  | some entry =>
    cases entry with
    | link target => exact advance_link trusted idle up long stands
    | directory mode =>
      have takes : fs.enter links here name = .ok (links, here ++ [name], []) := by
        simp [enter, directory, searchable, idle, up, long, stands]
      refine .entered takes ⟨0, here ++ [name], follow_nil ..⟩ fun rest => ?_
      cases links <;> simp [extendFollowing, extend, trusted, idle, up, long, stands]
    | file _ | sealedFile _ | socket =>
      exact .barred fun rest => by cases links <;> simp [extendFollowing, extend, trusted, idle, up, long, stands]

/-! ## A whole way -/

@[simp] theorem extendFollowing_nil (home : Location) (links : Nat) (fs : FileSystem) (here : Location) :
    extendFollowing home links fs here [] = (fs, true) := by
  cases links <;> rfl

/-- How many links may be followed does not decide where a name leads, if it leads somewhere. -/
theorem enter_unique {many left fewer : Nat} {next other : Location} {pushed behind : List FileName}
    (takes : fs.enter links here name = .ok (left, next, pushed))
    (walks : fs.enter many here name = .ok (fewer, other, behind)) : next = other ∧ pushed = behind := by
  unfold enter at takes walks
  split_ifs at takes walks
  · cases takes
    cases walks
    exact ⟨rfl, rfl⟩
  · cases takes
    cases walks
    exact ⟨rfl, rfl⟩
  · cases takes
    cases walks
    exact ⟨rfl, rfl⟩
  · cases stands : fs.entryAt (here ++ [name]) with
    | none => simp [stands] at takes
    | some entry =>
      cases entry with
      | link target => cases links <;> cases many <;> simp_all
      | file _ | sealedFile _ | directory _ | socket =>
        simp only [stands, Except.ok.injEq, Prod.mk.injEq] at takes walks
        exact ⟨takes.2.1.symm.trans walks.2.1, takes.2.2.symm.trans walks.2.2⟩

/-- Along names that lead somewhere nothing is made. Either the way is barred, or it goes on from there like a walk
in any larger file system. -/
theorem extendFollowing_append {many : Nat} (arrived : fs.follow true many here names = .ok mid) (links : Nat) :
    (∀ more, extendFollowing home links fs here (names ++ more) = (fs, false)) ∨
      ∃ left, (∀ more, extendFollowing home links fs here (names ++ more) = extendFollowing home left fs mid more) ∧
        ∀ (gs : FileSystem) (more : List FileName), gs.Extends fs →
          gs.follow true links here (names ++ more) = gs.follow true left mid more := by
  induction many, here, names using walk_induction fs generalizing links with
  | finished many here =>
    rw [follow_nil] at arrived
    cases arrived
    exact Or.inr ⟨links, fun _ => rfl, fun _ _ _ => rfl⟩
  | entering many here name rest ih =>
    obtain ⟨kept, there, behind, walks, arrived⟩ := exists_enter_of_follow_cons (Or.inr rfl) arrived
    cases advance home links fs here name with
    | barred stops => exact Or.inl fun more => stops (rest ++ more)
    | made missing _ _ _ => cases (missing many).symm.trans walks
    | @entered left next pushed takes _ goesOn =>
      obtain ⟨rfl, rfl⟩ := enter_unique takes walks
      rcases ih kept next pushed walks arrived left with stops | ⟨fewer, makes, leads⟩
      · exact Or.inl fun more => by simpa [goesOn] using stops more
      · refine Or.inr ⟨fewer, fun more => by simpa [goesOn] using makes more, fun gs more larger => ?_⟩
        rw [List.cons_append, follow_cons (Or.inr rfl), larger.enter_eq takes]
        simpa [Except.bind] using leads gs more larger

/-- A place where a directory is made for one of some names, as in `MadeOnWay`, on a walk from anywhere. -/
def MadeAlong (fs : FileSystem) (links : Nat) (here : Location) (names : List FileName) (location : Location) : Prop :=
  ∃ front last there, front ++ [last] <+: names ∧ fs.follow true links here front = .ok there ∧
    location = there ++ [last] ∧ fs.follow true links here (front ++ [last]) = .ok location

/-- What is made where a walk goes on behind its first name is made on this walk. -/
theorem MadeAlong.cons {left : Nat} {next location : Location}
    (onward : ∀ front, fs.follow true links here (name :: front) = fs.follow true left next front)
    (made : fs.MadeAlong left next names location) : fs.MadeAlong links here (name :: names) location := by
  obtain ⟨front, last, there, part, leads, same, found⟩ := made
  exact ⟨name :: front, last, there, List.cons_prefix_cons.mpr ⟨rfl, part⟩, (onward front).trans leads, same,
    (onward (front ++ [last])).trans found⟩

/-- What is new when a way has been gone is a private directory, and it stands where the names before its own
lead. -/
theorem addsPrivate_extendFollowing (home : Location) (links : Nat) (fs : FileSystem) (here : Location)
    (names : List FileName) :
    let created := (extendFollowing home links fs here names).1
    created.AddsPrivate fs (created.MadeAlong links here names) := by
  induction names generalizing links fs here with
  | nil => simpa using AddsPrivate.refl fs _
  | cons name rest ih =>
    cases advance home links fs here name with
    | barred stops => simpa [stops] using AddsPrivate.refl fs _
    | entered takes leads goesOn =>
      obtain ⟨many, final, arrived⟩ := leads
      rw [goesOn]
      rcases extendFollowing_append arrived _ with stops | ⟨fewer, makes, walks⟩
      · rw [stops]
        exact AddsPrivate.refl fs _
      · rw [makes]
        have adds := ih fewer fs final
        have onward (front : List FileName) :
            (extendFollowing home fewer fs final rest).1.follow true links here (name :: front) =
              (extendFollowing home fewer fs final rest).1.follow true fewer final front := by
          rw [follow_cons (Or.inr rfl), adds.keeps.enter_eq takes]
          exact walks _ front adds.keeps
        exact adds.mono fun _ => MadeAlong.cons onward
    | @made created _ adds takes goesOn =>
      rw [goesOn]
      have later := ih links created (here ++ [name])
      have onward (front : List FileName) :
          (extendFollowing home links created (here ++ [name]) rest).1.follow true links here (name :: front) =
            (extendFollowing home links created (here ++ [name]) rest).1.follow true links (here ++ [name]) front := by
        rw [follow_cons (Or.inr rfl), later.keeps.enter_eq takes]
        rfl
      refine (later.mono fun _ => MadeAlong.cons onward).trans (adds.mono ?_)
      rintro location rfl
      exact ⟨[], name, here, List.cons_prefix_cons.mpr ⟨rfl, List.nil_prefix⟩, follow_nil .., rfl,
        (onward []).trans (follow_nil ..)⟩

/-! ## The whole library -/

/-- Directories that are made name by name are made lawfully. -/
theorem lawful_makeDirectory (home : Location) : (makeDirectory home).Lawful where
  adds {fs path _} _ := by
    unfold makeDirectory
    split_ifs
    · exact AddsPrivate.refl fs _
    · exact addsPrivate_extendFollowing home linkLimit fs [] (Location.namesOf path)
  makes {fs path _} _ success := by
    unfold makeDirectory at success ⊢
    split at success
    · cases success
    next short =>
    rw [if_neg short]
    dsimp only at success ⊢
    split_ifs at success with complete
    obtain ⟨-, safe⟩ := Bool.and_eq_true_iff.mp complete
    unfold isSafeAt at safe
    split at safe
    · next location resolved =>
      obtain ⟨stands, before⟩ := Bool.and_eq_true_iff.mp safe
      obtain ⟨entry, stands⟩ := Option.isSome_iff_exists.mp stands
      refine ⟨entry, lookUp_eq_ok_iff.mpr ⟨location, resolved, stands⟩, ?_⟩
      have adds := addsPrivate_extendFollowing home linkLimit fs [] (Location.namesOf path)
      cases found : fs.entryAt location with
      | none => exact (adds.added location entry found stands).1
      | some other =>
        obtain rfl : other = entry := Option.some.inj ((adds.keeps location other found).symm.trans stands)
        rwa [found] at before
    · cases safe

theorem lawful_mistrust : Mistrust.Lawful mistrust where
  makers {fs ignored trustedGroup make} offered := by
    unfold mistrust at offered
    split at offered
    · cases offered
    split_ifs at offered
    exact Except.ok.inj offered ▸ lawful_makeDirectory _
  persists {fs gs ignored trustedGroup make} offered larger := by
    unfold mistrust at offered ⊢
    split at offered
    · cases offered
    next home resolved =>
    split_ifs at offered with nothing
    obtain ⟨entry, stands⟩ := Option.ne_none_iff_exists'.mp (mt Option.isNone_iff_eq_none.mpr nothing)
    exact ⟨makeDirectory home, by simp [larger.resolve_eq resolved, larger home entry stands]⟩

end FillInStory.FileSystem
