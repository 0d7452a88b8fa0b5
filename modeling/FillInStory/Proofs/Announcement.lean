import FillInStory.Proofs.Numeral
import FillInStory.Startup

/-! # Which record says that the server listens

The record about a port that is listened on can be told from all others of a start-up by the two letters that
it begins with, and the port can be read off it.
-/

namespace FillInStory

namespace Record

variable {record : Record} {port : Nat}

/-- A record says that the server listens on a port, whoever writes it and however it goes on. -/
def SaysListening (record : Record) (port : Nat) : Prop :=
  ("Listening on 0.0.0.0:" ++ Text.decimal port ++ " for " : Text) <+: record.message

/-- A record does not say that the server listens. -/
def Other (record : Record) : Prop := ∀ port, ¬ record.SaysListening port

/-- A record that begins with other letters says something else. -/
theorem other_of_take (start : Text) (begins : record.message.take 2 = start) (differs : start ≠ "Li") :
    record.Other := by
  rintro port ⟨rest, same⟩
  rw [← same] at begins
  exact differs begins.symm

/-- The record that a run writes before it listens names the port of its settings. -/
theorem saysListening_iff (level : Level) (origin : Origin) (c : Context) :
    (Record.mk level origin (Host.listening c)).SaysListening port ↔ port = c.port := by
  constructor
  · rintro ⟨rest, same⟩
    unfold Host.listening at same
    simp only [List.append_assoc] at same
    exact Text.eq_of_decimal_append_eq rfl rfl (List.append_cancel_left same)
  · rintro rfl
    exact ⟨Host.address c ++ ".", (List.append_assoc _ _ _).symm⟩

theorem other_storyError (level : Level) (origin : Origin) (e : StoryError) :
    (Record.mk level origin e.message).Other := by
  cases e with
  | fileRead => exact other_of_take "Un" rfl (by decide)
  | templateParse => exact other_of_take "Fi" rfl (by decide)
  | emptyCollection => exact other_of_take "No" rfl (by decide)
  | _ => exact other_of_take "Un" rfl (by decide)

end Record

namespace Collection

open Record

variable {fs : FileSystem} {workingDirectory : Location} {policy : LoadPolicy}

theorem other_of_mem_loadFiles {paths : List Text} {record : Record}
    (member : record ∈ (loadFiles fs workingDirectory policy paths).records) : record.Other := by
  induction paths with
  | nil => cases member
  | cons path paths ih =>
    unfold loadFiles at member
    split at member
    · rcases List.mem_cons.mp member with rfl | later
      · exact other_of_take "Sk" rfl (by decide)
      · exact ih later
    split at member
    · obtain rfl := List.mem_singleton.mp member
      exact other_storyError _ _ _
    · rcases List.mem_cons.mp member with rfl | later
      · exact other_of_take "Lo" rfl (by decide)
      · exact ih (by simpa using later)

/-- Listing the files of a directory does not say that the server listens. -/
theorem other_of_mem_filesIn {directory : Text} {record : Record}
    (member : record ∈ (fs.filesIn workingDirectory directory).records) : record.Other := by
  have kept (found : List (Except ListingFault Text)) :
      ∀ record ∈ (fs.keepFiles workingDirectory directory found).records, record.Other := by
    induction found with
    | nil => exact nofun
    | cons first found ih =>
      intro record member
      cases first with
      | error fault =>
        obtain rfl := List.mem_singleton.mp member
        exact other_of_take "Un" rfl (by decide)
      | ok path =>
        unfold FileSystem.keepFiles at member
        split at member
        · exact ih record (by simpa using member)
        · rcases List.mem_cons.mp member with rfl | later
          · exact other_of_take "Sk" rfl (by decide)
          · exact ih record later
  exact kept _ record (by simpa [FileSystem.filesIn] using member)

/-- Loading stories does not say that the server listens. -/
theorem other_of_mem_load {now : Instant} {directory : Text} {record : Record}
    (member : record ∈ (load fs workingDirectory now policy directory).records) : record.Other := by
  unfold load at member
  split at member
  · cases member
  rcases List.mem_append.mp member with listed | member
  · exact other_of_mem_filesIn listed
  dsimp only at member
  split at member
  · cases member
  rcases List.mem_append.mp member with loaded | member
  · exact other_of_mem_loadFiles loaded
  dsimp only at member
  split at member
  · cases member
  split at member
  · cases member
  · obtain rfl := List.mem_singleton.mp member
    exact other_of_take "Lo" rfl (by decide)

end Collection

namespace Context

open Record

variable {explain : Text → Text} {s : Surroundings} {fs : FileSystem} {arguments : Arguments}
  {directories : DataDirectories} {record : Record}

theorem other_of_mem_load (member : record ∈ (Parameters.load explain s fs directories).records) : record.Other := by
  unfold Parameters.load at member
  rcases List.mem_cons.mp member with rfl | member
  · exact other_of_take "Re" rfl (by decide)
  split at member
  · obtain rfl := List.mem_singleton.mp member
    exact other_of_take "Un" rfl (by decide)
  · rcases List.mem_append.mp (show record ∈ (Config.read _ _ _).records ++ [] from member) with read | none
    · unfold Config.read at read
      split at read
      · cases read
      · obtain rfl := List.mem_singleton.mp read
        exact other_of_take "Un" rfl (by decide)
    · cases none

/-- Establishing the settings does not say that the server listens. -/
theorem other_of_mem_establish (member : record ∈ (establish explain s fs arguments directories).records) :
    record.Other := by
  rcases List.mem_append.mp member with loaded | none
  · exact other_of_mem_load loaded
  · dsimp only at none
    split at none
    · cases none
    · split at none <;> cases none

end Context

end FillInStory
