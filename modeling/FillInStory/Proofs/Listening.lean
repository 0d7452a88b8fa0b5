import FillInStory.Proofs.Collections
import FillInStory.Proofs.ConfigurationFile
import FillInStory.Proofs.Course
import FillInStory.Proofs.DirectoryMaking

/-! # When a run listens

A run comes to the step of listening exactly when it goes on from private data directories with a log, has
settings, and has loaded the stories that they name; and then it listens on the port of its settings. A run
that was to do more than create the directories and does not come that far has failed, and its exit code says
so. That the directories are private rests on the libraries that make them and set up the log (`Host.Lawful`).
-/

namespace FillInStory

/-- A run comes to the step of listening on a port: it says that it does. -/
def Run.ListensOn (run : Run) (port : Nat) : Prop := ∃ record ∈ run.records, record.SaysListening port

theorem Run.not_listensOn {run : Run} (others : ∀ record ∈ run.records, record.Other) (port : Nat) :
    ¬ run.ListensOn port := fun ⟨record, member, tells⟩ => others record member port tells

/-- Where all records before the last say something else, it is the last that counts. -/
theorem Run.listensOn_iff_of_others {run : Run} {before : List Record} {last : Record} {port : Nat}
    (records : run.records = before ++ [last]) (others : ∀ record ∈ before, record.Other) :
    run.ListensOn port ↔ last.SaysListening port := by
  unfold Run.ListensOn
  rw [records]
  constructor
  · rintro ⟨record, member, tells⟩
    rcases List.mem_append.mp member with early | late
    · exact absurd tells (others record early port)
    · exact List.mem_singleton.mp late ▸ tells
  · exact fun tells => ⟨last, List.mem_append_right _ (List.mem_singleton_self _), tells⟩

/-! ## Libraries -/

/-- What is relied on of a library that sets up the log: every directory stays where it is and keeps its bits. -/
def LogSetUp.Lawful (setUp : LogSetUp) : Prop :=
  ∀ (fs : FileSystem) (workingDirectory : Location) (path directory : Text) (mode : Nat),
    fs.lookUp [] directory = .ok (.directory mode) →
      (setUp fs workingDirectory path).1.lookUp [] directory = .ok (.directory mode)

/-- Log settings that are read lay out files only. -/
theorem LogSettings.lawful_setUp : LogSetUp.Lawful setUp := by
  intro fs workingDirectory path directory mode found
  unfold setUp
  split
  · exact found
  split
  · exact found
  · exact (FileSystem.extends_foldl_createFile _ _ _).lookUp_eq found

/-- What is relied on of the libraries that act for a run. -/
structure Host.Lawful (host : Host) : Prop where
  mistrust : host.mistrust.Lawful
  logSetUp : host.logSetUp.Lawful

namespace Host

/-! ## Readiness -/

/-- All that a run needs in order to listen: settings `c` that it comes to have, data directories that are
private, and stories that were loaded as the settings say. -/
structure Ready (host : Host) (said : Arguments) (console : Console) (files : FileSystem) (c : Context)
    (stories : Collection) : Prop where
  settles : host.Settles said console files c
  directories : ∀ role, files.PrivateAt (c.directories.path role)
  loaded : (host.loading files c).value = .ok stories
  nonempty : stories.templates ≠ []
  parsed : ∀ template ∈ stories.templates, FieldSet.parse template.text = .ok template.fields

variable {host : Host} {said : Arguments} {console : Console} {files : FileSystem} {c : Context}
  {stories : Collection} {run : Run}

/-- What sets up the log leaves the data directories as they are. -/
theorem Lawful.privateAt (lawful : host.Lawful) {directories : DataDirectories}
    (logs : host.Logs said console files directories) (role : DirectoryRole) :
    files.PrivateAt (directories.path role) := by
  obtain ⟨-, between, notice, success, sensible⟩ := logs
  obtain ⟨-, -, priv⟩ := DataDirectories.privateAt_of_setUp lawful.mistrust success
  unfold initLog at sensible
  split at sensible
  · obtain ⟨absolute, mode, found, bits⟩ := priv role
    refine ⟨absolute, mode, ?_, bits⟩
    rw [← (Prod.mk.inj sensible).1]
    exact lawful.logSetUp between _ _ _ mode found
  · obtain ⟨rfl, -⟩ := Prod.mk.inj sensible
    exact priv role

theorem Lawful.ready (lawful : host.Lawful) (settles : host.Settles said console files c)
    (loaded : (host.loading files c).value = .ok stories) :
    host.Ready said console files c stories :=
  ⟨settles, lawful.privateAt settles.logs, loaded, stories.nonempty, (Collection.Built.fromDirectory loaded).parse_eq⟩

namespace Course

variable (course : host.Course said run)
include course

/-- A run that has settings comes to load the stories that they name, and if it can, to listen. -/
theorem reaches (settles : host.Settles said console files c) :
    ∃ before : List Record, (∀ record ∈ before, record.Other) ∧
      ((∃ e, (host.loading files c).value = .error e ∧ run.ending = .loadFailure e ∧
          run.records = before ++ [⟨.error, .startUp, Ending.loadMessage e⟩]) ∨
        ∃ stories, (host.loading files c).value = .ok stories ∧
          run.records = before ++ [⟨.info, .startUp, listening c⟩]) := by
  cases course with
  | directoryFailure stopped =>
    obtain ⟨_, _, success, -⟩ := settles.logs.laid
    cases stopped.symm.trans success
  | directoriesOnly only => cases only.symm.trans settles.logs.goesOn
  | logFailure goesOn without => exact absurd settles.logs (without _ _ _)
  | contextFailure logs stopped =>
    obtain ⟨-, rfl, rfl⟩ := logs.unique settles.logs
    cases stopped.symm.trans (Context.establish_eq_ok_iff.mpr ⟨rfl, settles.established⟩)
  | loadFailure reached failed others =>
    obtain ⟨-, rfl, rfl⟩ := reached.unique settles
    exact ⟨_, others, Or.inl ⟨_, failed, rfl, rfl⟩⟩
  | listens reached loaded others =>
    obtain ⟨-, rfl, rfl⟩ := reached.unique settles
    exact ⟨_, others, Or.inr ⟨_, loaded, rfl⟩⟩

/-- A run listens on a port exactly if it is ready and the port is that of its settings. -/
theorem listensOn_iff (lawful : host.Lawful) (port : Nat) :
    run.ListensOn port ↔ ∃ console files c stories, host.Ready said console files c stories ∧ port = c.port := by
  constructor
  · intro listening
    cases course with
    | listens settles loaded others =>
      rw [Run.listensOn_iff_of_others rfl others, Record.saysListening_iff] at listening
      exact ⟨_, _, _, _, lawful.ready settles loaded, listening⟩
    | loadFailure settles failed others =>
      rw [Run.listensOn_iff_of_others rfl others] at listening
      exact absurd listening (Record.other_of_take "Un" rfl (by decide) port)
    | contextFailure logs failed others => exact absurd listening (Run.not_listensOn others port)
    | _ => exact absurd listening (Run.not_listensOn (List.forall_mem_nil _) port)
  · rintro ⟨console, files, c, stories, ready, rfl⟩
    obtain ⟨before, others, ⟨e, failed, -, -⟩ | ⟨again, -, records⟩⟩ := course.reaches ready.settles
    · cases failed.symm.trans ready.loaded
    · exact (Run.listensOn_iff_of_others records others).mpr ((Record.saysListening_iff _ _ _).mpr rfl)

/-- A run that does not come to listen fails, unless it was to set up the directories only and has done so. -/
theorem exitCode_of_silent (silent : ∀ port, ¬ run.ListensOn port) :
    (∃ code, run.ending.exitCode? = some code ∧ code ≠ 0) ∨ said.createOnly = true ∧ ∃ directories,
      (DataDirectories.setUp host.mistrust host.surroundings host.files said.rootDirectory).2 = .ok directories := by
  cases course with
  | directoriesOnly only success => exact Or.inr ⟨only, _, congrArg Prod.snd success⟩
  | @listens console files c records stories ending settles loaded others =>
    have tells := (Record.saysListening_iff .info .startUp c).mpr rfl
    exact absurd ((Run.listensOn_iff_of_others rfl others).mpr tells) (silent c.port)
  | loadFailure => exact Or.inl ⟨1, rfl, by decide⟩
  | _ => exact Or.inl ⟨101, rfl, by decide⟩

/-- Stories that cannot be loaded end a run that has settings, and it does not listen. -/
theorem of_loading_error {e : StoryError} (settles : host.Settles said console files c)
    (failed : (host.loading files c).value = .error e) :
    (∀ port, ¬ run.ListensOn port) ∧ run.ending = .loadFailure e ∧
      run.records.getLast? = some ⟨.error, .startUp, Ending.loadMessage e⟩ := by
  obtain ⟨before, others, ⟨other, stopped, ending, records⟩ | ⟨stories, loaded, -⟩⟩ := course.reaches settles
  · obtain rfl : other = e := Except.error.inj (stopped.symm.trans failed)
    refine ⟨fun port listening => ?_, ending, records ▸ List.getLast?_concat⟩
    rw [Run.listensOn_iff_of_others records others] at listening
    exact Record.other_of_take "Un" rfl (by decide) port listening
  · cases loaded.symm.trans failed

/-- Where no more than the directories are wanted, a run ends when they are set up. -/
theorem eq_of_createOnly {directories : DataDirectories} (only : said.createOnly = true)
    (success : DataDirectories.setUp host.mistrust host.surroundings host.files said.rootDirectory =
      (files, .ok directories)) :
    run = ⟨opening said ++ [created directories], LogSettings.standard.render, [], files, .directoriesOnly⟩ := by
  cases course with
  | directoryFailure failed => cases failed.symm.trans success
  | directoriesOnly _ again =>
    cases again.symm.trans success
    rfl
  | logFailure goesOn => cases only.symm.trans goesOn
  | contextFailure logs => cases only.symm.trans logs.goesOn
  | loadFailure settles => cases only.symm.trans settles.logs.goesOn
  | listens settles => cases only.symm.trans settles.logs.goesOn

end Course

/-- A root directory with one story, whose directories are private, and nothing else. -/
def kennel : FileSystem :=
  let r : Location := [Text.utf8 "r"]
  let within (name : Text) : Location := r ++ [Text.utf8 name]
  (((((FileSystem.empty.put r (.directory 0o700)).put (within "config") (.directory 0o700)).put (within "logs")
    (.directory 0o700)).put (within "certs") (.directory 0o700)).put (within "stories") (.directory 0o700)).put
      (within "stories" ++ [Text.utf8 "a"]) (.file (Text.utf8 "My {pet}."))

/-- A host with these directories, where no configuration is kept. -/
def kennelHost : Host where
  surroundings := Parameters.bare
  files := kennel
  busyPorts := []
  certifies := fun _ _ => false
  mistrust := FileSystem.mistrust
  logSetUp := LogSettings.setUp
  explain := Config.vague
  now := Instant.epoch
  build := ⟨"", "", "", "", ""⟩

end Host

end FillInStory
