import FillInStory.Files.Creation
import FillInStory.Proofs.Walk

/-! # Creating only adds entries

One file system extends another one if every entry of the other still stands in it. Directories and files
are created where nothing stands, so what creates them extends the file system (`extends_extendFollowing`,
`extends_createFile`). A walk that has arrived arrives at the same place in every extension, and so a path
that leads to an entry goes on leading to it (`Extends.lookUp_eq`).
-/

namespace FillInStory.FileSystem

variable {fs gs hs : FileSystem} {here final location : Location} {names : List FileName}

/-- Every entry of a file system still stands. -/
def Extends (gs fs : FileSystem) : Prop :=
  ∀ location entry, fs.entryAt location = some entry → gs.entryAt location = some entry

namespace Extends

theorem refl (fs : FileSystem) : fs.Extends fs := fun _ _ => id

theorem trans (later : hs.Extends gs) (earlier : gs.Extends fs) : hs.Extends fs :=
  fun location entry stands => later location entry (earlier location entry stands)

variable (larger : gs.Extends fs)
include larger

/-- A directory that stands is still the same one. -/
theorem entryAt_eq (directory : fs.isDirectoryAt here) : gs.entryAt here = fs.entryAt here := by
  unfold isDirectoryAt at directory
  cases stands : fs.entryAt here with
  | none => rw [stands] at directory; cases directory
  | some entry => exact larger here entry stands

/-- A name that can be entered can still be entered, with the same outcome. -/
theorem enter_eq {links : Nat} {name : FileName} {outcome : Nat × Location × List FileName}
    (entered : fs.enter links here name = .ok outcome) : gs.enter links here name = .ok outcome := by
  have directory : fs.isDirectoryAt here = true := by
    unfold enter at entered
    split at entered
    · cases entered
    · next stands => simpa using stands
  have still := larger.entryAt_eq directory
  have alike : gs.isDirectoryAt here = fs.isDirectoryAt here ∧ gs.isSearchableAt here = fs.isSearchableAt here :=
    ⟨by rw [isDirectoryAt, still, isDirectoryAt], by rw [isSearchableAt, modeAt?, still, isSearchableAt, modeAt?]⟩
  unfold enter at entered ⊢
  rw [alike.1, alike.2]
  split_ifs at entered ⊢
  · exact entered
  · exact entered
  · exact entered
  · cases stands : fs.entryAt (here ++ [name]) with
    | none => simp [stands] at entered
    | some entry =>
      rw [stands] at entered
      rw [larger _ _ stands]
      exact entered

/-- A walk that arrives still arrives, and at the same place. -/
theorem follow_eq {links : Nat} (arrived : fs.follow true links here names = .ok final) :
    gs.follow true links here names = .ok final := by
  induction links, here, names using walk_induction fs with
  | finished links here => rw [follow_nil] at arrived ⊢; exact arrived
  | entering links here name rest ih =>
    obtain ⟨left, next, pushed, entered, arrived⟩ := exists_enter_of_follow_cons (Or.inr rfl) arrived
    rw [follow_cons (Or.inr rfl), larger.enter_eq entered]
    exact ih left next pushed entered arrived

theorem resolve_eq {workingDirectory : Location} {path : Text}
    (resolved : fs.resolve true workingDirectory path = .ok location) :
    gs.resolve true workingDirectory path = .ok location := by
  unfold resolve at resolved ⊢
  split_ifs at resolved ⊢
  · exact larger.follow_eq resolved
  · exact larger.follow_eq resolved

/-- A path that leads to an entry goes on leading to it. -/
theorem lookUp_eq {workingDirectory : Location} {path : Text} {entry : Entry}
    (found : fs.lookUp workingDirectory path = .ok entry) : gs.lookUp workingDirectory path = .ok entry := by
  obtain ⟨location, resolved, stands⟩ := lookUp_eq_ok_iff.mp found
  exact lookUp_eq_ok_iff.mpr ⟨location, larger.resolve_eq resolved, larger location entry stands⟩

end Extends

/-! ## What creates entries -/

theorem extends_put (absent : fs.entryAt location = none) (entry : Entry) : (fs.put location entry).Extends fs := by
  intro other stood stands
  unfold entryAt at absent stands ⊢
  split_ifs at stands ⊢ with root
  · exact stands
  · have elsewhere : location ≠ other := by
      rintro rfl
      rw [if_neg root, stands] at absent
      cases absent
    rw [put, Dictionary.get?_insert, if_neg elsewhere]
    exact stands

theorem extends_of_addDirectory? {name : FileName} {mode : Nat} (absent : fs.entryAt (here ++ [name]) = none)
    (added : fs.addDirectory? here name mode = some gs) : gs.Extends fs := by
  unfold addDirectory? at added
  split at added
  · split_ifs at added
    obtain rfl := Option.some.inj added
    exact extends_put absent _
  · cases added

theorem extends_createFileAlong (fs : FileSystem) (here : Location) (names : List FileName) :
    (fs.createFileAlong here names).Extends fs := by
  induction names generalizing fs here with
  | nil => exact Extends.refl fs
  | cons name rest ih =>
    unfold createFileAlong
    split
    · exact ih fs _
    · split
      · next absent added =>
        have absent := Option.isNone_iff_eq_none.mp absent
        split_ifs
        · exact extends_put absent _
        · exact (ih _ _).trans (extends_of_addDirectory? absent added)
      · exact Extends.refl fs

theorem extends_createFile (fs : FileSystem) (workingDirectory : Location) (path : Text) :
    (fs.createFile workingDirectory path).Extends fs := by
  unfold createFile
  split
  · exact Extends.refl fs
  · exact extends_createFileAlong fs _ _

/-- Creating files one after the other only adds entries. -/
theorem extends_foldl_createFile (workingDirectory : Location) (paths : List Text) (fs : FileSystem) :
    (paths.foldl (fun fs file => fs.createFile workingDirectory file) fs).Extends fs := by
  induction paths generalizing fs with
  | nil => exact Extends.refl fs
  | cons path paths ih => exact (ih _).trans (extends_createFile fs workingDirectory path)

end FillInStory.FileSystem
