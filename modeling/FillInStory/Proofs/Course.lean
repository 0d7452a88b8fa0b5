import FillInStory.Proofs.Announcement
import FillInStory.Proofs.Configuration
import FillInStory.Proofs.DataDirectories

/-! # The course of a run

A run whose arguments are accepted ends in one of six ways, and each is reached under its own conditions: the
data directories cannot be had, or nothing more than they is wanted; the log's settings make no sense; the
settings of the run cannot be established; the stories cannot be loaded; or the run comes to the step of
listening (`Host.Course`). What a run may be said to do or not to do is read off its course.
-/

namespace FillInStory

/-! ## The stages -/

section

variable {explain : Text → Text} {s : Surroundings} {fs : FileSystem} {directories : DataDirectories}
  {said : Arguments}

/-- The settings that a file system calls for: those that the text in the file of the configuration makes, or
the standard ones where there is no text to read. -/
inductive Parameters.Configured (s : Surroundings) (fs : FileSystem) (directories : DataDirectories) :
    Parameters → Prop
  | parsed {text : Text} {config : Config}
    (reads : fs.readText s.here (absolutePath s (fileIn directories)) = .ok text)
    (parses : Config.parse? text = some config) :
    Configured s fs directories ⟨absolutePath s (fileIn directories), config⟩
  | defaulted {fault : Fault}
    (unreadable : fs.readText s.here (absolutePath s (fileIn directories)) = .error fault) :
    Configured s fs directories standard

theorem Parameters.load_eq_ok_iff {p : Parameters} :
    (load explain s fs directories).value = .ok p ↔ Configured s fs directories p := by
  constructor
  · intro success
    cases read : fs.readText s.here (absolutePath s (fileIn directories)) with
    | error fault =>
      cases success.symm.trans (value_load_of_unreadable explain read)
      exact .defaulted read
    | ok text =>
      rw [value_load_of_readable explain read] at success
      cases parses : Config.parse? text with
      | none =>
        rw [parses] at success
        cases success
      | some config =>
        rw [parses] at success
        cases success
        exact .parsed read parses
  · intro configured
    cases configured with
    | parsed reads parses =>
      rw [value_load_of_readable explain reads, parses]
      rfl
    | defaulted unreadable => exact value_load_of_unreadable explain unreadable

/-- Settings that a run with some arguments may go on with. -/
structure Context.Established (s : Surroundings) (fs : FileSystem) (said : Arguments) (c : Context) : Prop where
  arguments : c.arguments = said
  configured : Parameters.Configured s fs c.directories c.parameters
  port : resolvePort (s.environment.get? portVariable) said.port c.parameters.config.httpPort = .ok c.port
  storiesDirectory : c.storiesDirectory = resolveStoriesDirectory s said.storiesDirectory
    c.parameters.config.storiesDirectory (c.directories.path .stories)

theorem Context.establish_eq_ok_iff {c : Context} :
    (establish explain s fs said directories).value = .ok c ↔
      c.directories = directories ∧ c.Established s fs said := by
  unfold establish
  rw [Logged.value_bind]
  constructor
  · intro success
    split at success
    · cases success
    next parameters loaded =>
    split at success
    · cases success
    · next port resolved =>
      cases success
      exact ⟨rfl, rfl, Parameters.load_eq_ok_iff.mp loaded, resolved, rfl⟩
  · rintro ⟨rfl, same, configured, resolved, place⟩
    rw [Parameters.load_eq_ok_iff.mpr configured]
    dsimp only
    rw [resolved, ← place]
    subst same
    rfl

end

namespace Host

section

variable {host : Host} {said : Arguments} {console : Console} {files : FileSystem} {directories : DataDirectories}
  {c : Context}

/-- A run goes on from its data directories with a log. -/
structure Logs (host : Host) (said : Arguments) (console : Console) (files : FileSystem)
    (directories : DataDirectories) : Prop where
  goesOn : said.createOnly = false
  laid : ∃ between notice,
    DataDirectories.setUp host.mistrust host.surroundings host.files said.rootDirectory = (between, .ok directories) ∧
      ({ host with files := between } : Host).initLog (logSettingsFile directories) = (files, .ok (console, notice))

theorem Logs.unique {otherConsole : Console} {otherFiles : FileSystem} {others : DataDirectories}
    (logs : host.Logs said console files directories) (other : host.Logs said otherConsole otherFiles others) :
    console = otherConsole ∧ files = otherFiles ∧ directories = others := by
  obtain ⟨-, between, notice, success, sensible⟩ := logs
  obtain ⟨-, _, _, again, alike⟩ := other
  cases success.symm.trans again
  cases sensible.symm.trans alike
  exact ⟨rfl, rfl, rfl⟩

/-- A run comes to have settings: it goes on from its data directories with a log, and establishes them. -/
structure Settles (host : Host) (said : Arguments) (console : Console) (files : FileSystem) (c : Context) :
    Prop where
  logs : host.Logs said console files c.directories
  established : c.Established host.surroundings files said

theorem Settles.unique {otherConsole : Console} {otherFiles : FileSystem} {other : Context}
    (settles : host.Settles said console files c) (again : host.Settles said otherConsole otherFiles other) :
    console = otherConsole ∧ files = otherFiles ∧ c = other := by
  obtain ⟨rfl, rfl, same⟩ := settles.logs.unique again.logs
  have first : (Context.establish host.explain _ _ _ _).value = .ok c :=
    Context.establish_eq_ok_iff.mpr ⟨rfl, settles.established⟩
  rw [same] at first
  exact ⟨rfl, rfl, Except.ok.inj (first.symm.trans (Context.establish_eq_ok_iff.mpr ⟨rfl, again.established⟩))⟩

end

/-- Loading the stories that some settings name, with the policy of their configuration. -/
def loading (host : Host) (files : FileSystem) (c : Context) : Logged (Except StoryError Collection) :=
  Collection.load files host.surroundings.here host.now c.parameters.config.loadPolicy c.storiesDirectory

/-- What a run prints before its log is set up. -/
def opening (said : Arguments) : List Text := [greeting, said.outline.compact]

/-- What a run prints when it has created data directories and nothing more is wanted. -/
def created (directories : DataDirectories) : Text :=
  "Data directories created under " ++ directories.path .root ++ "."

/-! ## What a run comes to -/

/-- What a run with accepted arguments may come to. -/
inductive Course (host : Host) (said : Arguments) : Run → Prop
  | directoryFailure {files : FileSystem} {e : DirectoryError}
    (failed : DataDirectories.setUp host.mistrust host.surroundings host.files said.rootDirectory = (files, .error e)) :
    Course host said ⟨opening said, LogSettings.standard.render, [], files, .directoryFailure e⟩
  | directoriesOnly {files : FileSystem} {directories : DataDirectories} (only : said.createOnly = true)
    (success : DataDirectories.setUp host.mistrust host.surroundings host.files said.rootDirectory =
      (files, .ok directories)) :
    Course host said ⟨opening said ++ [created directories], LogSettings.standard.render, [], files, .directoriesOnly⟩
  | logFailure {lines : List Text} {files : FileSystem} {path : Text} (goesOn : said.createOnly = false)
    (without : ∀ console files directories, ¬ host.Logs said console files directories) :
    Course host said ⟨lines, LogSettings.standard.render, [], files, .logFailure path⟩
  | contextFailure {console : Console} {files : FileSystem} {directories : DataDirectories} {records : List Record}
    {e : ContextError} (logs : host.Logs said console files directories)
    (failed : (Context.establish host.explain host.surroundings files said directories).value = .error e)
    (others : ∀ record ∈ records, record.Other) :
    Course host said ⟨opening said, console, records, files, .contextFailure e⟩
  | loadFailure {console : Console} {files : FileSystem} {c : Context} {records : List Record} {e : StoryError}
    (settles : host.Settles said console files c) (failed : (host.loading files c).value = .error e)
    (others : ∀ record ∈ records, record.Other) :
    Course host said
      ⟨opening said, console, records ++ [⟨.error, .startUp, Ending.loadMessage e⟩], files, .loadFailure e⟩
  /-- The step of listening is reached, whether the server can listen or not. -/
  | listens {console : Console} {files : FileSystem} {c : Context} {records : List Record} {stories : Collection}
    {ending : Ending} (settles : host.Settles said console files c)
    (loaded : (host.loading files c).value = .ok stories)
    (others : ∀ record ∈ records, record.Other) :
    Course host said ⟨opening said, console, records ++ [⟨.info, .startUp, listening c⟩], files, ending⟩

variable {host : Host} {said : Arguments} {console : Console} {files : FileSystem} {directories : DataDirectories}
  {c : Context}

theorem other_notice {path notice : Text} (sensible : host.initLog path = (files, .ok (console, notice))) :
    (Record.mk .info .settings notice).Other := by
  unfold initLog at sensible
  split at sensible
  · dsimp only at sensible
    cases outcome : (host.logSetUp host.files host.surroundings.here path).2 with
    | error reason =>
      rw [outcome] at sensible
      cases sensible
    | ok shown =>
      rw [outcome] at sensible
      cases sensible
      exact Record.other_of_take "Lo" rfl (by decide)
  · cases sensible
    exact Record.other_of_take "Lo" rfl (by decide)

/-- Stories that cannot be loaded end a run with a record about what is wrong. -/
theorem listen_of_error {e : StoryError} (failed : (host.loading host.files c).value = .error e) :
    host.listen c = ⟨.loadFailure e,
      (host.loading host.files c).records ++ [⟨.error, .startUp, Ending.loadMessage e⟩]⟩ := by
  unfold loading at failed
  change Logged.mk _ _ = _
  rw [failed]
  rfl

/-- Once the stories are loaded a run says that it listens, whatever becomes of it then. -/
theorem listen_of_ok {stories : Collection} (loaded : (host.loading host.files c).value = .ok stories) :
    ∃ ending, host.listen c =
      ⟨ending, (host.loading host.files c).records ++ [⟨.info, .startUp, listening c⟩]⟩ := by
  unfold loading at loaded
  change ∃ ending, Logged.mk _ _ = _
  rw [loaded]
  dsimp only
  cases fault : host.listenFault? c with
  | some fault => exact ⟨_, rfl⟩
  | none => exact ⟨_, rfl⟩

theorem serve_of_error {e : ContextError}
    (failed : (Context.establish host.explain host.surroundings host.files said directories).value = .error e) :
    (host.serve said directories).value = .contextFailure e ∧
      ∀ record ∈ (host.serve said directories).records, record.Other := by
  unfold serve
  rw [Logged.value_bind, Logged.records_bind, failed]
  exact ⟨rfl, List.forall_mem_append.mpr ⟨fun _ => Context.other_of_mem_establish, nofun⟩⟩

/-- With its settings established a run reports them, and goes on to load the stories and to listen. -/
theorem serve_of_ok
    (success : (Context.establish host.explain host.surroundings host.files said directories).value = .ok c) :
    ∃ before, (∀ record ∈ before, record.Other) ∧
      host.serve said directories = ⟨(host.listen c).value, before ++ (host.listen c).records⟩ := by
  let reports : List Record := [⟨.info, .startUp, "story_server input parameters:\n" ++ c.outline.pretty⟩,
    ⟨.info, .startUp, running host.build⟩]
  refine ⟨(Context.establish host.explain host.surroundings host.files said directories).records ++ reports, ?_, ?_⟩
  · have reported : ∀ record ∈ reports, record.Other :=
      List.forall_mem_cons.mpr ⟨Record.other_of_take "st" rfl (by decide),
        List.forall_mem_singleton.mpr (Record.other_of_take "\n*" rfl (by decide))⟩
    exact List.forall_mem_append.mpr ⟨fun _ => Context.other_of_mem_establish, reported⟩
  · change Logged.mk _ _ = _
    rw [success, List.append_assoc]
    rfl

/-- What becomes of a run once its log is set up. -/
theorem course_serve {before : List Record} (logs : host.Logs said console files directories)
    (others : ∀ record ∈ before, record.Other) :
    let served := ({ host with files := files } : Host).serve said directories
    host.Course said ⟨opening said, console, before ++ served.records, files, served.value⟩ := by
  -- the same host with what the set-up and the log have added to its files
  let changed : Host := { host with files := files }
  cases established : (Context.establish changed.explain changed.surroundings changed.files said directories).value with
  | error e =>
    obtain ⟨ending, quiet⟩ := serve_of_error established
    change host.Course said ⟨_, _, before ++ (changed.serve said directories).records, _,
      (changed.serve said directories).value⟩
    rw [ending]
    exact .contextFailure logs established (List.forall_mem_append.mpr ⟨others, quiet⟩)
  | ok c =>
    obtain ⟨rfl, fits⟩ := Context.establish_eq_ok_iff.mp established
    obtain ⟨reports, quiet, served⟩ := serve_of_ok established
    have settles : host.Settles said console files c := ⟨logs, fits⟩
    have earlier : ∀ record ∈ before ++ (reports ++ (changed.loading changed.files c).records), record.Other :=
      List.forall_mem_append.mpr ⟨others, List.forall_mem_append.mpr ⟨quiet, fun _ => Collection.other_of_mem_load⟩⟩
    change host.Course said ⟨_, _, before ++ (changed.serve said c.directories).records, _,
      (changed.serve said c.directories).value⟩
    rw [served]
    cases loaded : (changed.loading changed.files c).value with
    | error e =>
      rw [listen_of_error loaded, ← List.append_assoc reports, ← List.append_assoc before]
      exact .loadFailure settles loaded earlier
    | ok stories =>
      obtain ⟨ending, listened⟩ := listen_of_ok loaded
      rw [listened, ← List.append_assoc reports, ← List.append_assoc before]
      exact .listens settles loaded earlier

/-- What becomes of a run once its data directories are set up and more is wanted. -/
theorem course_proceed {between : FileSystem} (goesOn : said.createOnly = false)
    (success : DataDirectories.setUp host.mistrust host.surroundings host.files said.rootDirectory =
      (between, .ok directories)) :
    host.Course said (({ host with files := between } : Host).proceed (opening said) said directories) := by
  unfold proceed
  split
  · next senseless =>
    -- a log could only come from the same set-up, whose log settings make no sense
    refine .logFailure goesOn fun console files others logs => ?_
    obtain ⟨-, _, notice, again, sensible⟩ := logs
    cases success.symm.trans again
    cases senseless.symm.trans sensible
  · next notice sensible =>
    have logs : host.Logs said _ _ directories := ⟨goesOn, between, notice, success, sensible⟩
    exact course_serve logs (List.forall_mem_singleton.mpr (other_notice sensible))

/-- A run with accepted arguments takes one of its courses. -/
theorem course_start {arguments : List Text} (accepted : Arguments.parse arguments = .ok said) :
    host.Course said (host.start arguments) := by
  unfold start
  rw [accepted]
  dsimp only
  split
  · next failed => exact .directoryFailure failed
  next success =>
  split
  · next only => exact .directoriesOnly only success
  · next more => exact course_proceed (Bool.eq_false_iff.mpr more) success

end Host

end FillInStory
