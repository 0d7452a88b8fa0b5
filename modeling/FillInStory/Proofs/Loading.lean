import FillInStory.Proofs.DirectoryFiles
import FillInStory.Proofs.Substitution
import FillInStory.Story.Loading

/-! # What comes of loading a directory

`Collection.Loads` says what a load may come to, in terms of the files of the directory and of what each
contains: the story files are the regular files that are not skipped, in byte order of their names, and the
first of them that is no good decides. It never mentions a listing or a loop. A load comes to exactly that,
and to the same in whatever order the file system keeps its entries (`load_exact`).
-/

namespace FillInStory

/-! ## One file -/

namespace Template

variable {fs : FileSystem} {workingDirectory : Location} {requireFields : Bool} {path : Text}

/-- A file is accepted as a template: its contents are the text of the template in UTF-8. -/
structure Accepted (fs : FileSystem) (workingDirectory : Location) (requireFields : Bool) (path : Text)
    (template : Template) : Prop where
  contents : fs.read workingDirectory path = .ok (Text.utf8 template.text)
  made : ofText requireFields template.text = .ok template

/-- Why a file is rejected: it cannot be read, it is no text, or the text is no template. -/
inductive Rejected (fs : FileSystem) (workingDirectory : Location) (requireFields : Bool) (path : Text) :
    StoryError → Prop
  | unreadable {fault : Fault} (unread : fs.read workingDirectory path = .error fault) :
    Rejected fs workingDirectory requireFields path (.fileRead path fault)
  | undecodable {contents : List UInt8} (read : fs.read workingDirectory path = .ok contents)
    (noText : ¬ ∃ text, Text.utf8 text = contents) :
    Rejected fs workingDirectory requireFields path (.fileRead path .notUtf8)
  | malformed {text : Text} {defect : ParseError} (read : fs.read workingDirectory path = .ok (Text.utf8 text))
    (noTemplate : ofText requireFields text = .error defect) :
    Rejected fs workingDirectory requireFields path (.templateParse path defect)

theorem ofFile_of_read {contents : List UInt8} (read : fs.read workingDirectory path = .ok contents) :
    ofFile fs workingDirectory requireFields path =
      (Text.ofUtf8? contents).elim (.error (.fileRead path .notUtf8))
        fun text => (ofText requireFields text).mapError (.templateParse path) := by
  unfold ofFile FileSystem.readText
  rw [read]
  cases decoded : Text.ofUtf8? contents <;> simp [Except.bind, decoded]

theorem Accepted.ofFile_eq {template : Template}
    (accepted : Accepted fs workingDirectory requireFields path template) :
    ofFile fs workingDirectory requireFields path = .ok template := by
  rw [ofFile_of_read accepted.contents, Text.ofUtf8?_utf8, Option.elim_some, accepted.made]
  rfl

theorem Rejected.ofFile_eq {e : StoryError} (rejected : Rejected fs workingDirectory requireFields path e) :
    ofFile fs workingDirectory requireFields path = .error e := by
  cases rejected with
  | unreadable unread =>
    unfold ofFile FileSystem.readText
    rw [unread]
    rfl
  | undecodable read noText => rw [ofFile_of_read read, (Text.ofUtf8?_eq_none_iff _).mpr noText, Option.elim_none]
  | malformed read noTemplate =>
    rw [ofFile_of_read read, Text.ofUtf8?_utf8, Option.elim_some, noTemplate]
    rfl

/-- Every file is accepted or rejected. -/
theorem accepted_or_rejected (fs : FileSystem) (workingDirectory : Location) (requireFields : Bool)
    (path : Text) :
    (∃ template, Accepted fs workingDirectory requireFields path template) ∨
      ∃ e, Rejected fs workingDirectory requireFields path e := by
  cases read : fs.read workingDirectory path with
  | error fault => exact Or.inr ⟨_, .unreadable read⟩
  | ok contents =>
    by_cases decodable : ∃ text, Text.utf8 text = contents
    · obtain ⟨text, rfl⟩ := decodable
      cases made : ofText requireFields text with
      | error defect => exact Or.inr ⟨_, .malformed read made⟩
      | ok template =>
        obtain rfl := text_of_ofText made
        exact Or.inl ⟨template, read, made⟩
    · exact Or.inr ⟨_, .undecodable read decodable⟩

end Template

/-! ## The files of a load -/

/-- The name of the entry is the one that a path goes on by. -/
theorem FileName.ofPath?_nextPath (path : Text) {name : Text} (proper : FileName.Proper (Text.utf8 name)) :
    FileName.ofPath? (Text.utf8 (nextPath path name)) = some (Text.utf8 name) := by
  have last (before : List FileName) (pieced : pieces slashByte (Text.utf8 (nextPath path name)) =
      before ++ [Text.utf8 name]) :
      FileName.ofPath? (Text.utf8 (nextPath path name)) = some (Text.utf8 name) := by
    simp [FileName.ofPath?, pieced, proper.nonempty, proper.notSelf, proper.notParent]
  rcases nextPath_cases path with alone | ⟨before, behind⟩
  · exact last [] (by rw [alone name proper.slash_notMem, pieces_of_notMem proper.noSlash]; rfl)
  · refine last (pieces slashByte (Text.utf8 before)) ?_
    rw [behind name proper.slash_notMem, Text.utf8_append, utf8_cons_slash, pieces_append_cons,
      pieces_of_notMem proper.noSlash]

namespace LoadPolicy

/-- Whether a file with a name is skipped: the name begins with what is to be skipped, if that is not
empty. -/
def Skips (policy : LoadPolicy) (name : Text) : Prop := policy.skipStart ≠ [] ∧ policy.skipStart <+: name

instance (policy : LoadPolicy) (name : Text) : Decidable (policy.Skips name) :=
  inferInstanceAs (Decidable (_ ∧ _))

theorem skips_nextPath (policy : LoadPolicy) (path : Text) {name : Text}
    (proper : FileName.Proper (Text.utf8 name)) :
    skips policy.skipStart (Text.utf8 (nextPath path name)) = decide (policy.Skips name) := by
  rw [Bool.eq_iff_iff, decide_eq_true_iff]
  simp [skips, Skips, FileName.ofPath?_nextPath path proper]

end LoadPolicy

namespace Collection

variable {fs : FileSystem} {workingDirectory : Location} {policy : LoadPolicy} {directory : Text}

/-- The names of the files that a load is about: the regular files of the directory that are not skipped,
in byte order. -/
structure StoryFiles (fs : FileSystem) (workingDirectory : Location) (policy : LoadPolicy) (directory : Text)
    (names : List Text) : Prop where
  sorted : names.Pairwise fun a b => FileName.le (Text.utf8 a) (Text.utf8 b) ∧ a ≠ b
  mem_iff : ∀ name, name ∈ names ↔
    fs.HasChild workingDirectory directory name ∧
      fs.isFile workingDirectory (FileSystem.childPath directory name) ∧ ¬ policy.Skips name

/-- A directory has one list of story files. -/
theorem StoryFiles.unique {names others : List Text}
    (first : StoryFiles fs workingDirectory policy directory names)
    (second : StoryFiles fs workingDirectory policy directory others) : names = others :=
  Text.eq_of_sorted first.sorted second.sorted fun name => (first.mem_iff name).trans (second.mem_iff name).symm

/-- Of the children of a directory the story files are those regular ones that are not skipped. -/
theorem storyFiles_of_children {children names : List Text}
    (hasChild : ∀ name, fs.HasChild workingDirectory directory name ↔ name ∈ children)
    (sorted : names.Pairwise fun a b => FileName.le (Text.utf8 a) (Text.utf8 b) ∧ a ≠ b)
    (within : ∀ name ∈ names, name ∈ children)
    (kept : ∀ name ∈ children, name ∈ names ↔
      fs.isFile workingDirectory (FileSystem.childPath directory name) ∧ ¬ policy.Skips name) :
    StoryFiles fs workingDirectory policy directory names where
  sorted := sorted
  mem_iff := FileSystem.mem_iff_of_children hasChild within kept

def storyFiles (fs : FileSystem) (workingDirectory : Location) (policy : LoadPolicy) (directory : Text) :
    List Text :=
  ((fs.textNamesIn workingDirectory directory).filter
    (fs.isFile workingDirectory ∘ FileSystem.childPath directory)).filter fun name => !policy.Skips name

theorem storyFiles_spec (fs : FileSystem) (workingDirectory : Location) (policy : LoadPolicy)
    (directory : Text) :
    StoryFiles fs workingDirectory policy directory (storyFiles fs workingDirectory policy directory) where
  sorted := ((FileSystem.sorted_textNamesIn fs workingDirectory directory).filter _).filter _
  mem_iff name := by
    simp only [storyFiles, List.mem_filter, FileSystem.mem_textNamesIn, Function.comp_apply, and_assoc,
      Bool.not_eq_true', decide_eq_false_iff_not]

/-! ## The loop over the files -/

/-- Files are taken one after the other, without those that are skipped. -/
theorem value_loadFiles (fs : FileSystem) (workingDirectory : Location) (policy : LoadPolicy)
    (paths : List Text) :
    (loadFiles fs workingDirectory policy paths).value =
      (paths.filter fun path => !LoadPolicy.skips policy.skipStart (Text.utf8 path)).mapM
        (Template.ofFile fs workingDirectory policy.requireFields) := by
  induction paths with
  | nil => rfl
  | cons path paths ih =>
    rw [loadFiles]
    split
    · next skipped => simpa [skipped] using ih
    · next kept =>
      rw [List.filter_cons_of_pos (by simpa using kept), List.mapM_cons]
      cases Template.ofFile fs workingDirectory policy.requireFields path with
      | error e => rfl
      | ok template =>
        simp only [Logged.value_bind, Logged.value_pure, ih]
        rfl

/-- Those of some paths that a policy does not skip. -/
def keptPaths (policy : LoadPolicy) (paths : List Text) : List Text :=
  paths.filter fun path => !LoadPolicy.skips policy.skipStart (Text.utf8 path)

/-- Loading a directory that can be listed makes templates of the files that are not skipped. -/
theorem value_load_of_files {paths : List Text} (isDirectory : fs.isDirectory workingDirectory directory)
    (listed : (fs.filesIn workingDirectory directory).value = .ok paths) (now : Instant) (policy : LoadPolicy) :
    (load fs workingDirectory now policy directory).value =
      ((keptPaths policy paths).mapM (Template.ofFile fs workingDirectory policy.requireFields)).bind
        (ofTemplates directory now) := by
  simp only [load, keptPaths, isDirectory, listed, Bool.not_true, Bool.false_eq_true, ↓reduceIte, Logged.value_bind,
    value_loadFiles]
  generalize List.mapM (Template.ofFile fs workingDirectory policy.requireFields) _ = made
  cases made with
  | error e => rfl
  | ok templates =>
    simp only [Except.bind]
    cases ofTemplates directory now templates <;> rfl

/-- A directory that cannot be listed cannot be loaded. -/
theorem value_load_of_unlisted {message : Text} (isDirectory : fs.isDirectory workingDirectory directory)
    (unlisted : (fs.filesIn workingDirectory directory).value = .error message) (now : Instant) (policy : LoadPolicy) :
    (load fs workingDirectory now policy directory).value = .error (.directoryRead directory message) := by
  simp only [load, isDirectory, unlisted, Bool.not_true, Bool.false_eq_true, ↓reduceIte, Logged.value_bind,
    Logged.value_pure]

def templateOf (fs : FileSystem) (workingDirectory : Location) (policy : LoadPolicy) (directory name : Text) :
    Except StoryError Template :=
  Template.ofFile fs workingDirectory policy.requireFields (FileSystem.childPath directory name)

/-- Loading makes templates of the story files, in their order. -/
theorem value_load (isDirectory : fs.isDirectory workingDirectory directory)
    (lists : fs.Lists workingDirectory directory) (wellNamed : fs.WellNamed workingDirectory directory)
    (now : Instant) :
    (load fs workingDirectory now policy directory).value =
      ((storyFiles fs workingDirectory policy directory).mapM
        (templateOf fs workingDirectory policy directory)).bind (ofTemplates directory now) := by
  have kept : keptPaths policy (((fs.textNamesIn workingDirectory directory).filter
        (fs.isFile workingDirectory ∘ FileSystem.childPath directory)).map (FileSystem.childPath directory)) =
      (storyFiles fs workingDirectory policy directory).map (FileSystem.childPath directory) := by
    rw [keptPaths, List.filter_map, storyFiles]
    congr 1
    refine List.filter_congr fun name member => ?_
    have child := FileSystem.mem_textNamesIn.mp (List.mem_of_mem_filter member)
    simp only [Function.comp_apply, FileSystem.childPath, policy.skips_nextPath _ (wellNamed name child)]
  rw [value_load_of_files isDirectory (FileSystem.value_filesIn lists wellNamed), kept, List.mapM_map]
  rfl

/-! ## What a load comes to -/

/-- What loading a directory may come to. -/
inductive Loads (fs : FileSystem) (workingDirectory : Location) (now : Instant) (policy : LoadPolicy)
    (directory : Text) : Except StoryError Collection → Prop
  | notDirectory (other : ¬ fs.isDirectory workingDirectory directory) :
    Loads fs workingDirectory now policy directory (.error (.directoryRead directory "not a directory"))
  /-- The first story file that is rejected decides. -/
  | rejected {before after : List Text} {name : Text} {e : StoryError}
    (isDirectory : fs.isDirectory workingDirectory directory)
    (files : StoryFiles fs workingDirectory policy directory (before ++ name :: after))
    (earlier : ∀ n ∈ before, ∃ template, Template.Accepted fs workingDirectory policy.requireFields
      (FileSystem.childPath directory n) template)
    (first : Template.Rejected fs workingDirectory policy.requireFields (FileSystem.childPath directory name) e) :
    Loads fs workingDirectory now policy directory (.error e)
  | empty (isDirectory : fs.isDirectory workingDirectory directory)
    (files : StoryFiles fs workingDirectory policy directory []) :
    Loads fs workingDirectory now policy directory (.error (.emptyCollection directory))
  /-- Each story file is a template of the collection, in the same order. -/
  | loaded {names : List Text} {stories : Collection}
    (isDirectory : fs.isDirectory workingDirectory directory)
    (files : StoryFiles fs workingDirectory policy directory names)
    (accepted : List.Forall₂ (fun name template => Template.Accepted fs workingDirectory policy.requireFields
      (FileSystem.childPath directory name) template) names stories.templates)
    (time : stories.loadedAt = now) : Loads fs workingDirectory now policy directory (.ok stories)

section

variable {α β ε : Type} (f : α → Except ε β)

/-- Where each of some things succeeds, the results come in the same order. -/
theorem mapM_eq_ok_iff (as : List α) (bs : List β) :
    as.mapM f = .ok bs ↔ List.Forall₂ (fun a b => f a = .ok b) as bs := by
  induction as generalizing bs with
  | nil =>
    rw [List.mapM_nil, List.forall₂_nil_left_iff]
    exact ⟨fun same => (Except.ok.inj same).symm, fun empty => congrArg Except.ok empty.symm⟩
  | cons a as ih =>
    rw [List.mapM_cons, List.forall₂_cons_left_iff]
    refine (bind_eq_ok_iff _ _ _).trans ⟨?_, ?_⟩
    · rintro ⟨b, head, rest⟩
      obtain ⟨cs, tail, same⟩ := (bind_eq_ok_iff _ _ _).mp rest
      exact ⟨b, cs, head, (ih cs).mp tail, (Except.ok.inj same).symm⟩
    · rintro ⟨b, cs, head, tail, rfl⟩
      exact ⟨b, head, (bind_eq_ok_iff _ _ _).mpr ⟨cs, (ih cs).mpr tail, rfl⟩⟩

theorem mapM_eq_error {before : List α} {a : α} {e : ε} (earlier : ∀ b ∈ before, ∃ c, f b = .ok c)
    (first : f a = .error e) (after : List α) : (before ++ a :: after).mapM f = .error e := by
  induction before with
  | nil =>
    rw [List.nil_append, List.mapM_cons, first]
    rfl
  | cons b before ih =>
    rw [List.forall_mem_cons] at earlier
    obtain ⟨⟨c, head⟩, earlier⟩ := earlier
    rw [List.cons_append, List.mapM_cons, head, ih earlier]
    rfl

end

/-- Either all of the files are accepted, or there is a first one that is rejected. -/
theorem all_accepted_or_first_rejected (fs : FileSystem) (workingDirectory : Location) (requireFields : Bool)
    (directory : Text) (names : List Text) :
    (∃ templates, List.Forall₂ (fun name template => Template.Accepted fs workingDirectory requireFields
        (FileSystem.childPath directory name) template) names templates) ∨
      ∃ before name after e, names = before ++ name :: after ∧
        (∀ n ∈ before, ∃ template, Template.Accepted fs workingDirectory requireFields
          (FileSystem.childPath directory n) template) ∧
        Template.Rejected fs workingDirectory requireFields (FileSystem.childPath directory name) e := by
  induction names with
  | nil => exact Or.inl ⟨[], .nil⟩
  | cons name names ih =>
    rcases Template.accepted_or_rejected fs workingDirectory requireFields (FileSystem.childPath directory name) with
      ⟨template, accepted⟩ | ⟨e, rejected⟩
    · rcases ih with ⟨templates, all⟩ | ⟨before, n, after, e, rfl, earlier, rejected⟩
      · exact Or.inl ⟨template :: templates, .cons accepted all⟩
      · have earlier := List.forall_mem_cons.mpr ⟨⟨template, accepted⟩, earlier⟩
        exact Or.inr ⟨name :: before, n, after, e, rfl, earlier, rejected⟩
    · exact Or.inr ⟨[], name, names, e, rfl, by simp, rejected⟩

/-- A load may always come to something. -/
theorem exists_loads (fs : FileSystem) (workingDirectory : Location) (now : Instant) (policy : LoadPolicy)
    (directory : Text) : ∃ outcome, Loads fs workingDirectory now policy directory outcome := by
  by_cases isDirectory : fs.isDirectory workingDirectory directory
  · have files := storyFiles_spec fs workingDirectory policy directory
    rcases all_accepted_or_first_rejected fs workingDirectory policy.requireFields directory
      (storyFiles fs workingDirectory policy directory) with
      ⟨templates, accepted⟩ | ⟨before, name, after, e, split, earlier, first⟩
    · cases templates with
      | nil =>
        rw [List.forall₂_nil_right_iff.mp accepted] at files
        exact ⟨_, .empty isDirectory files⟩
      | cons template templates =>
        exact ⟨.ok ⟨template :: templates, List.cons_ne_nil _ _, now⟩, .loaded isDirectory files accepted rfl⟩
    · exact ⟨_, .rejected isDirectory (split ▸ files) earlier first⟩
  · exact ⟨_, .notDirectory isDirectory⟩

/-- A load comes to what it may come to. -/
theorem Loads.value_load {now : Instant} {outcome : Except StoryError Collection}
    (loads : Loads fs workingDirectory now policy directory outcome)
    (lists : fs.isDirectory workingDirectory directory → fs.Lists workingDirectory directory)
    (wellNamed : fs.WellNamed workingDirectory directory) :
    (load fs workingDirectory now policy directory).value = outcome := by
  have spec := storyFiles_spec fs workingDirectory policy directory
  cases loads with
  | notDirectory other => simp [load, other]
  | rejected isDirectory files earlier first =>
    rw [Collection.value_load isDirectory (lists isDirectory) wellNamed, spec.unique files]
    rw [mapM_eq_error (templateOf fs workingDirectory policy directory)
      (fun n member => (earlier n member).imp fun _ => Template.Accepted.ofFile_eq) first.ofFile_eq]
    rfl
  | empty isDirectory files =>
    rw [Collection.value_load isDirectory (lists isDirectory) wellNamed, spec.unique files]
    rfl
  | @loaded names stories isDirectory files accepted time =>
    rw [Collection.value_load isDirectory (lists isDirectory) wellNamed, spec.unique files]
    subst time
    rw [(mapM_eq_ok_iff (templateOf fs workingDirectory policy directory) _ _).mpr
      (accepted.imp fun _ _ => Template.Accepted.ofFile_eq)]
    simp [Except.bind, ofTemplates, stories.nonempty]

/-- What a load comes to depends neither on the order of the entries nor, but for the time that it notes,
on when it happens. -/
theorem value_load_of_perm {other : FileSystem} (same : other.Rearranges fs)
    (now later : Instant) :
    (load other workingDirectory later policy directory).value =
      ((load fs workingDirectory now policy directory).value).map fun stories =>
        { stories with loadedAt := later } := by
  have files (paths : List Text) : (loadFiles other workingDirectory policy paths).value =
      (loadFiles fs workingDirectory policy paths).value := by
    have each : Template.ofFile other = Template.ofFile fs := by
      funext workingDirectory requireFields path
      simp only [Template.ofFile, FileSystem.readText_of_perm same]
    simp only [value_loadFiles, each]
  unfold load
  rw [FileSystem.isDirectory_of_perm same, FileSystem.filesIn_of_perm same]
  split
  · rfl
  simp only [Logged.value_bind]
  cases (fs.filesIn workingDirectory directory).value with
  | error message => rfl
  | ok paths =>
    simp only [Logged.value_bind, files]
    cases (loadFiles fs workingDirectory policy paths).value with
    | error e => rfl
    | ok templates => cases templates <;> rfl

/-- Loading a directory comes to exactly what the story files of the directory call for, whatever the order
in which the system keeps its entries. -/
theorem load_exact (lists : fs.isDirectory workingDirectory directory → fs.Lists workingDirectory directory)
    (wellNamed : fs.WellNamed workingDirectory directory) (now : Instant) (policy : LoadPolicy) :
    (∀ outcome, (load fs workingDirectory now policy directory).value = outcome ↔
        Loads fs workingDirectory now policy directory outcome) ∧
      ∀ other later, other.Rearranges fs →
        (load other workingDirectory later policy directory).value =
          ((load fs workingDirectory now policy directory).value).map fun stories =>
            { stories with loadedAt := later } := by
  refine ⟨fun outcome => ⟨?_, fun loads => loads.value_load lists wellNamed⟩, fun other later same =>
    value_load_of_perm same now later⟩
  rintro rfl
  obtain ⟨outcome, loads⟩ := exists_loads fs workingDirectory now policy directory
  rwa [loads.value_load lists wellNamed]

/-- A directory `/s` with two stories, a file that is no text, and a directory. -/
def pets : FileSystem :=
  let s : Location := [Text.utf8 "s"]
  ((((FileSystem.empty.put s (.directory 0o755)).put (s ++ [Text.utf8 "b"]) (.file (Text.utf8 "My {pet}."))).put
    (s ++ [Text.utf8 ".a"]) (.file [0xFF])).put (s ++ [Text.utf8 "a"]) (.file (Text.utf8 "I am {age}."))).put
    (s ++ [Text.utf8 "c"]) (.directory 0o755)

def petNames : List Text := ["b", ".a", "a", "c"]

theorem hasChild_pets (name : Text) : pets.HasChild [] "/s" name ↔ name ∈ petNames := by
  have names : pets.namesIn [Text.utf8 "s"] = petNames.map Text.utf8 := by decide
  exact FileSystem.hasChild_iff_mem rfl names name

theorem wellNamed_pets : pets.WellNamed [] "/s" := by
  intro name child
  have each : ∀ n ∈ petNames, FileName.Proper (Text.utf8 n) := by decide
  exact each name ((hasChild_pets name).mp child)

theorem storyFiles_pets : StoryFiles pets [] LoadPolicy.standard "/s" ["a".toList, "b".toList] :=
  storyFiles_of_children hasChild_pets (by decide) (by decide) (by decide +kernel)

/-- The two stories are loaded in the order of their names, and the broken file is skipped. -/
theorem load_exact_pets :
    (pets.isDirectory [] "/s" → pets.Lists [] "/s") ∧ pets.WellNamed [] "/s" ∧
      ∃ stories, (load pets [] Instant.epoch LoadPolicy.standard "/s").value = .ok stories ∧
        stories.templates.map Template.text = ["I am {age}.".toList, "My {pet}.".toList] := by
  have lists (isDirectory : pets.isDirectory [] "/s") : pets.Lists [] "/s" :=
    FileSystem.lists_of_isDirectory isDirectory (fun odd => odd.1 rfl) rfl
  let stories : Collection := ⟨[⟨"I am {age}.", ⟨[⟨"age"⟩], by decide⟩, by decide⟩,
    ⟨"My {pet}.", ⟨[⟨"pet"⟩], by decide⟩, by decide⟩], by simp, Instant.epoch⟩
  refine ⟨lists, wellNamed_pets, stories, ?_, rfl⟩
  refine ((load_exact lists wellNamed_pets Instant.epoch LoadPolicy.standard).1 _).mpr ?_
  exact .loaded rfl storyFiles_pets (.cons ⟨rfl, rfl⟩ (.cons ⟨rfl, rfl⟩ .nil)) rfl

end Collection

end FillInStory
