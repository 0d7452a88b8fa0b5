import FillInStory.Proofs.Collections
import FillInStory.Proofs.LiteralListing

/-! # What a load leaves in the log

A load goes through a directory twice: the listing reports the entries that are no regular files, and the loading
reports the files one by one until it is done or a file is no good. `Collection.Reports` puts the two together: it
says which records stand in the log, and in which order, for each thing that a load may come to, and it mentions
neither a listing nor a loop. A directory that cannot be listed is reported alone. The log of a load is always one
of these (`load_reports`), unless the directory is oddly spelled; then nothing is found in it, and the log stays
empty.
-/

namespace FillInStory

variable {fs : FileSystem} {workingDirectory : Location} {policy : LoadPolicy} {directory : Text}

namespace FileSystem

/-- The names of the entries of a directory that are no regular files after following links, so far as they are
texts, in byte order. -/
structure ChildOthers (fs : FileSystem) (workingDirectory : Location) (directory : Text) (names : List Text) :
    Prop where
  sorted : names.Pairwise fun a b => FileName.le (Text.utf8 a) (Text.utf8 b) ∧ a ≠ b
  mem_iff : ∀ name, name ∈ names ↔
    fs.HasChild workingDirectory directory name ∧ ¬ fs.isFile workingDirectory (childPath directory name)

/-- A directory has one list of other entries. -/
theorem ChildOthers.unique {names others : List Text} (first : fs.ChildOthers workingDirectory directory names)
    (second : fs.ChildOthers workingDirectory directory others) : names = others :=
  Text.eq_of_sorted first.sorted second.sorted fun name => (first.mem_iff name).trans (second.mem_iff name).symm

theorem childOthers_textNamesIn (fs : FileSystem) (workingDirectory : Location) (directory : Text) :
    fs.ChildOthers workingDirectory directory ((fs.textNamesIn workingDirectory directory).filter
      fun name => !fs.isFile workingDirectory (childPath directory name)) where
  sorted := (sorted_textNamesIn fs workingDirectory directory).filter _
  mem_iff name := by simp only [List.mem_filter, mem_textNamesIn, Bool.not_eq_true', Bool.not_eq_true]

/-- The listing of a directory reports the entries that are no regular files, and finds the other ones. -/
theorem exists_filesIn_eq (isDirectory : fs.isDirectory workingDirectory directory)
    (wellNamed : fs.WellNamed workingDirectory directory) (spelled : ¬ OddlySpelled directory)
    (unbarred : fs.barrier? workingDirectory directory = none) :
    ∃ others names, fs.ChildOthers workingDirectory directory others ∧
      fs.ChildFiles workingDirectory directory names ∧
      fs.filesIn workingDirectory directory =
        ⟨.ok (names.map (childPath directory)), others.map (notRegular ∘ childPath directory)⟩ := by
  have files := childFiles_textNamesIn fs workingDirectory directory
  refine ⟨_, _, childOthers_textNamesIn fs workingDirectory directory, files, ?_⟩
  rw [← files.value_filesIn isDirectory wellNamed spelled unbarred, ← List.map_map]
  have found : fs.pathsIn workingDirectory directory =
      ((fs.textNamesIn workingDirectory directory).map (childPath directory)).map .ok := by
    rw [pathsIn_eq isDirectory spelled, unbarred, List.map_map]
  rw [filesIn_of_paths found, List.filter_map, List.filter_map]
  rfl

end FileSystem

namespace Collection

open FileSystem

/-! ## The files, one by one -/

/-- What the log says of a regular file that a load comes past: that it is skipped, or how many fields its text
has. -/
inductive Mention (fs : FileSystem) (workingDirectory : Location) (policy : LoadPolicy) (directory name : Text) :
    Record → Prop
  | skipped (skips : policy.Skips name) :
    Mention fs workingDirectory policy directory name ⟨.debug, .collection,
      "Skipping story file " ++ Text.quotedPath (childPath directory name) ++ "."⟩
  | loaded {template : Template} (kept : ¬ policy.Skips name)
    (accepted : Template.Accepted fs workingDirectory policy.requireFields (childPath directory name) template) :
    Mention fs workingDirectory policy directory name ⟨.debug, .collection,
      "Loaded story file " ++ Text.quotedPath (childPath directory name) ++ " with "
        ++ Text.decimal template.fields.size ++ " fields."⟩

theorem Mention.level_eq {name : Text} {record : Record}
    (mention : Mention fs workingDirectory policy directory name record) : record.level = .debug := by
  cases mention <;> rfl

/-- The record about a file that is no good. -/
def failure (e : StoryError) : Record := ⟨.error, .collection, e.message⟩

def success (directory : Text) (stories : Collection) : Record :=
  ⟨.info, .collection, "Loaded " ++ Text.decimal stories.size ++ " story templates from " ++ directory ++ "."⟩

/-- What one file does to a load: it is mentioned, and if it is not skipped its template comes first, or the load
ends with it. -/
theorem loadFiles_step {name : Text} (proper : FileName.Proper (Text.utf8 name)) :
    (∃ record templates, Mention fs workingDirectory policy directory name record ∧
      List.Forall₂ (fun n template => Template.Accepted fs workingDirectory policy.requireFields
        (childPath directory n) template) ([name].filter fun n => !policy.Skips n) templates ∧
      ∀ paths, loadFiles fs workingDirectory policy (childPath directory name :: paths) =
        ⟨(loadFiles fs workingDirectory policy paths).value.map (templates ++ ·),
          record :: (loadFiles fs workingDirectory policy paths).records⟩) ∨
      ∃ e, ¬ policy.Skips name ∧
        Template.Rejected fs workingDirectory policy.requireFields (childPath directory name) e ∧
        ∀ paths, loadFiles fs workingDirectory policy (childPath directory name :: paths) =
          ⟨.error e, [failure e]⟩ := by
  have skipping : LoadPolicy.skips policy.skipStart (Text.utf8 (childPath directory name)) =
      decide (policy.Skips name) := policy.skips_nextPath _ proper
  by_cases skips : policy.Skips name
  · refine Or.inl ⟨_, [], .skipped skips, by simp [skips], fun paths => ?_⟩
    rw [loadFiles, skipping, decide_eq_true skips, if_pos rfl]
    cases loaded : loadFiles fs workingDirectory policy paths with
    | mk value records => cases value <;> rfl
  rcases Template.accepted_or_rejected fs workingDirectory policy.requireFields (childPath directory name) with
    ⟨template, accepted⟩ | ⟨e, rejected⟩
  · refine Or.inl ⟨_, [template], .loaded skips accepted, by simpa [skips] using accepted, fun paths => ?_⟩
    rw [loadFiles, skipping, decide_eq_false skips, if_neg Bool.false_ne_true, accepted.ofFile_eq]
    exact congrArg (Logged.mk _ ∘ List.cons _) (List.append_nil _)
  · refine Or.inr ⟨e, skips, rejected, fun paths => ?_⟩
    rw [loadFiles, skipping, decide_eq_false skips, if_neg Bool.false_ne_true, rejected.ofFile_eq]
    rfl

/-- A load mentions all of the files, or those before the first one that is no good. -/
theorem loadFiles_reports {names : List Text} (proper : ∀ name ∈ names, FileName.Proper (Text.utf8 name)) :
    (∃ records templates, List.Forall₂ (Mention fs workingDirectory policy directory) names records ∧
      List.Forall₂ (fun name template => Template.Accepted fs workingDirectory policy.requireFields
        (childPath directory name) template) (names.filter fun name => !policy.Skips name) templates ∧
      loadFiles fs workingDirectory policy (names.map (childPath directory)) = ⟨.ok templates, records⟩) ∨
      ∃ before name after records e, names = before ++ name :: after ∧
        List.Forall₂ (Mention fs workingDirectory policy directory) before records ∧ ¬ policy.Skips name ∧
        Template.Rejected fs workingDirectory policy.requireFields (childPath directory name) e ∧
        loadFiles fs workingDirectory policy (names.map (childPath directory)) =
          ⟨.error e, records ++ [failure e]⟩ := by
  induction names with
  | nil => exact Or.inl ⟨[], [], .nil, .nil, rfl⟩
  | cons name names ih =>
    rw [List.forall_mem_cons] at proper
    rcases loadFiles_step proper.1 with ⟨record, templates, mention, accepted, goesOn⟩ | ⟨e, kept, rejected, stops⟩
    · rw [List.map_cons, goesOn]
      rcases ih proper.2 with ⟨records, others, mentions, all, loaded⟩ |
        ⟨before, n, after, records, e, rfl, mentions, kept, rejected, loaded⟩
      · refine Or.inl ⟨record :: records, templates ++ others, .cons mention mentions, ?_, by rw [loaded]; rfl⟩
        rw [← List.singleton_append, List.filter_append]
        exact List.rel_append accepted all
      · exact Or.inr ⟨name :: before, n, after, record :: records, e, rfl, .cons mention mentions, kept, rejected,
          by rw [loaded]; rfl⟩
    · exact Or.inr ⟨[], name, names, [], e, rfl, .nil, kept, rejected, stops _⟩

/-! ## The whole log -/

/-- What a load leaves in the log, for each thing that it may come to. First come the entries of the directory that
are no regular files, and then the regular ones up to the first that is no good, each in byte order of the names. -/
inductive Reports (fs : FileSystem) (workingDirectory : Location) (policy : LoadPolicy) (directory : Text) :
    List Record → Except StoryError Collection → Prop
  | notDirectory (other : ¬ fs.isDirectory workingDirectory directory) :
    Reports fs workingDirectory policy directory [] (.error (.directoryRead directory "not a directory"))
  /-- The first of the directories to be listed that cannot be ends the load. -/
  | barred {fault : ListingFault} (isDirectory : fs.isDirectory workingDirectory directory)
    (barrier : fs.barrier? workingDirectory directory = some fault) :
    Reports fs workingDirectory policy directory [⟨.error, .requests, inaccessible directory fault⟩]
      (.error (.directoryRead directory (inaccessible directory fault)))
  | rejected {others before after : List Text} {name : Text} {records : List Record} {e : StoryError}
    (isDirectory : fs.isDirectory workingDirectory directory)
    (unbarred : fs.barrier? workingDirectory directory = none)
    (irregular : fs.ChildOthers workingDirectory directory others)
    (files : fs.ChildFiles workingDirectory directory (before ++ name :: after))
    (earlier : List.Forall₂ (Mention fs workingDirectory policy directory) before records)
    (kept : ¬ policy.Skips name)
    (first : Template.Rejected fs workingDirectory policy.requireFields (childPath directory name) e) :
    Reports fs workingDirectory policy directory
      (others.map (notRegular ∘ childPath directory) ++ records ++ [failure e]) (.error e)
  | empty {others names : List Text} {records : List Record}
    (isDirectory : fs.isDirectory workingDirectory directory)
    (unbarred : fs.barrier? workingDirectory directory = none)
    (irregular : fs.ChildOthers workingDirectory directory others)
    (files : fs.ChildFiles workingDirectory directory names)
    (mentions : List.Forall₂ (Mention fs workingDirectory policy directory) names records)
    (skipped : ∀ name ∈ names, policy.Skips name) :
    Reports fs workingDirectory policy directory
      (others.map (notRegular ∘ childPath directory) ++ records) (.error (.emptyCollection directory))
  | loaded {others names : List Text} {records : List Record} {stories : Collection}
    (isDirectory : fs.isDirectory workingDirectory directory)
    (unbarred : fs.barrier? workingDirectory directory = none)
    (irregular : fs.ChildOthers workingDirectory directory others)
    (files : fs.ChildFiles workingDirectory directory names)
    (mentions : List.Forall₂ (Mention fs workingDirectory policy directory) names records)
    (accepted : List.Forall₂ (fun name template => Template.Accepted fs workingDirectory policy.requireFields
      (childPath directory name) template) (names.filter fun name => !policy.Skips name) stories.templates) :
    Reports fs workingDirectory policy directory
      (others.map (notRegular ∘ childPath directory) ++ records ++ [success directory stories]) (.ok stories)

/-- The log of a load says what the directory calls for. -/
theorem reports_load (wellNamed : fs.WellNamed workingDirectory directory)
    (spelled : fs.isDirectory workingDirectory directory → ¬ OddlySpelled directory) (now : Instant)
    (policy : LoadPolicy) :
    Reports fs workingDirectory policy directory (load fs workingDirectory now policy directory).records
      (load fs workingDirectory now policy directory).value := by
  cases isDirectory : fs.isDirectory workingDirectory directory with
  | false =>
    rw [load, isDirectory]
    exact .notDirectory (by simp [isDirectory])
  | true =>
    cases barrier : fs.barrier? workingDirectory directory with
    | some fault =>
      simp only [load, isDirectory, Bool.not_true, Bool.false_eq_true, ↓reduceIte,
        filesIn_of_barrier isDirectory (spelled isDirectory) barrier]
      exact .barred isDirectory barrier
    | none =>
    obtain ⟨others, names, irregular, files, listed⟩ :=
      exists_filesIn_eq isDirectory wellNamed (spelled isDirectory) barrier
    have proper : ∀ name ∈ names, FileName.Proper (Text.utf8 name) := fun name member =>
      wellNamed name ((files.mem_iff name).mp member).1
    simp only [load, isDirectory, Bool.not_true, Bool.false_eq_true, ↓reduceIte, listed, Logged.value_bind,
      Logged.records_bind]
    rcases loadFiles_reports proper with ⟨records, templates, mentions, accepted, loaded⟩ |
      ⟨before, name, after, records, e, rfl, earlier, kept, first, loaded⟩
    · rw [loaded]
      cases templates with
      | nil =>
        have skipped : ∀ name ∈ names, policy.Skips name := by
          simpa using List.forall₂_nil_right_iff.mp accepted
        simpa [ofTemplates] using Reports.empty isDirectory barrier irregular files mentions skipped
      | cons template templates =>
        let stories : Collection := ⟨template :: templates, List.cons_ne_nil _ _, now⟩
        have loaded : Reports fs workingDirectory policy directory
            (others.map (notRegular ∘ childPath directory) ++ records ++ [success directory stories]) (.ok stories) :=
          .loaded isDirectory barrier irregular files mentions accepted
        rw [List.append_assoc] at loaded
        exact loaded
    · rw [loaded]
      simpa [List.append_assoc] using Reports.rejected isDirectory barrier irregular files earlier kept first

/-- Nothing comes of an oddly spelled directory, and nothing is said about it. -/
theorem load_of_oddlySpelled (isDirectory : fs.isDirectory workingDirectory directory)
    (odd : OddlySpelled directory) (now : Instant) (policy : LoadPolicy) :
    load fs workingDirectory now policy directory = ⟨.error (.emptyCollection directory), []⟩ := by
  obtain ⟨location, resolved, -⟩ := exists_resolve_of_isDirectory isDirectory
  simp only [load, isDirectory, Bool.not_true, Bool.false_eq_true, ↓reduceIte,
    filesIn_of_oddlySpelled (usable_of_resolve resolved).nonempty odd]
  rfl

/-- The records about the entries of a directory are there for the details alone. -/
theorem not_exists_level {others names : List Text} {records : List Record} {level : Level} (loud : level ≠ .debug)
    (mentions : List.Forall₂ (Mention fs workingDirectory policy directory) names records) :
    ¬ ∃ record ∈ others.map (notRegular ∘ childPath directory) ++ records, record.level = level := by
  rintro ⟨record, member, rfl⟩
  rcases List.mem_append.mp member with listed | mentioned
  · obtain ⟨name, -, rfl⟩ := List.mem_map.mp listed
    exact loud rfl
  · obtain ⟨name, -, mention⟩ := exists_of_mem_of_forall₂ mentions mentioned
    exact loud mention.level_eq

/-- A record behind them is the only one that may say more. -/
theorem exists_level_concat_iff {others names : List Text} {records : List Record} {last : Record} {level : Level}
    (loud : level ≠ .debug)
    (mentions : List.Forall₂ (Mention fs workingDirectory policy directory) names records) :
    (∃ record ∈ others.map (notRegular ∘ childPath directory) ++ records ++ [last], record.level = level) ↔
      last.level = level := by
  constructor
  · rintro ⟨record, member, same⟩
    rcases List.mem_append.mp member with earlier | behind
    · exact absurd ⟨record, earlier, same⟩ (not_exists_level loud mentions)
    · exact List.mem_singleton.mp behind ▸ same
  · exact fun same => ⟨last, List.mem_concat_self, same⟩

namespace Reports

variable {records : List Record} {outcome : Except StoryError Collection}

/-- What is said of a directory that cannot be listed is not what is said of a path that leads to none. -/
theorem inaccessible_ne (directory : Text) (fault : ListingFault) :
    "not a directory".toList ≠ inaccessible directory fault := by
  intro same
  have first : some 'n' = some 'U' := congrArg List.head? same
  exact absurd first (by decide)

/-- An error is reported exactly where a file is no good or a directory cannot be listed. -/
theorem error_iff (reports : Reports fs workingDirectory policy directory records outcome) :
    (∃ record ∈ records, record.level = .error) ↔
      (∃ path fault, outcome = .error (.fileRead path fault)) ∨
        (∃ path defect, outcome = .error (.templateParse path defect)) ∨
          ∃ fault, fs.barrier? workingDirectory directory = some fault ∧
            outcome = .error (.directoryRead directory (inaccessible directory fault)) := by
  cases reports with
  | notDirectory =>
    refine iff_of_false (by simp) ?_
    rintro (⟨path, fault, same⟩ | ⟨path, defect, same⟩ | ⟨fault, -, same⟩)
    · cases same
    · cases same
    · exact inaccessible_ne directory fault (StoryError.directoryRead.inj (Except.error.inj same)).2
  | barred _ barrier => exact iff_of_true ⟨_, List.mem_singleton_self _, rfl⟩ (Or.inr (Or.inr ⟨_, barrier, rfl⟩))
  | rejected _ _ _ _ earlier _ first =>
    refine iff_of_true ((exists_level_concat_iff (by decide) earlier).mpr rfl) ?_
    cases first with
    | unreadable => exact Or.inl ⟨_, _, rfl⟩
    | undecodable => exact Or.inl ⟨_, _, rfl⟩
    | malformed => exact Or.inr (Or.inl ⟨_, _, rfl⟩)
  | empty _ _ _ _ mentions _ => exact iff_of_false (not_exists_level (by decide) mentions) (by simp)
  | loaded _ _ _ _ mentions _ =>
    rw [exists_level_concat_iff (by decide) mentions]
    exact iff_of_false nofun (by simp)

/-- A collection is reported exactly where there is one. -/
theorem info_iff (reports : Reports fs workingDirectory policy directory records outcome) :
    (∃ record ∈ records, record.level = .info) ↔ ∃ stories, outcome = .ok stories := by
  cases reports with
  | notDirectory | barred => simp
  | rejected _ _ _ _ earlier _ _ =>
    rw [exists_level_concat_iff (by decide) earlier]
    exact iff_of_false nofun (by simp)
  | empty _ _ _ _ mentions _ => exact iff_of_false (not_exists_level (by decide) mentions) (by simp)
  | loaded _ _ _ _ mentions _ =>
    exact iff_of_true ((exists_level_concat_iff (by decide) mentions).mpr rfl) ⟨_, rfl⟩

/-- An error and a collection are never reported together. -/
theorem not_both (reports : Reports fs workingDirectory policy directory records outcome) :
    ¬ ((∃ record ∈ records, record.level = .error) ∧ ∃ record ∈ records, record.level = .info) := by
  rw [reports.error_iff, reports.info_iff]
  rintro ⟨⟨path, fault, failed⟩ | ⟨path, defect, failed⟩ | ⟨fault, -, failed⟩, stories, loaded⟩
  · cases failed.symm.trans loaded
  · cases failed.symm.trans loaded
  · cases failed.symm.trans loaded

end Reports

/-- The log of a load accounts for every entry of the directory once, unless the directory is oddly spelled; then
nothing is found in it. In either case an error is reported exactly if a file is no good or a directory cannot be
listed, and a collection exactly if there is one, and never both. -/
theorem load_reports (wellNamed : fs.WellNamed workingDirectory directory) (now : Instant) (policy : LoadPolicy) :
    ((fs.isDirectory workingDirectory directory → ¬ OddlySpelled directory) →
        Reports fs workingDirectory policy directory (load fs workingDirectory now policy directory).records
          (load fs workingDirectory now policy directory).value) ∧
      (fs.isDirectory workingDirectory directory → OddlySpelled directory →
        load fs workingDirectory now policy directory = ⟨.error (.emptyCollection directory), []⟩) ∧
      ((∃ record ∈ (load fs workingDirectory now policy directory).records, record.level = .error) ↔
        (∃ path fault, (load fs workingDirectory now policy directory).value = .error (.fileRead path fault)) ∨
          (∃ path defect, (load fs workingDirectory now policy directory).value = .error (.templateParse path defect)) ∨
            ∃ fault, fs.barrier? workingDirectory directory = some fault ∧
              (load fs workingDirectory now policy directory).value =
                .error (.directoryRead directory (inaccessible directory fault))) ∧
      ((∃ record ∈ (load fs workingDirectory now policy directory).records, record.level = .info) ↔
        ∃ stories, (load fs workingDirectory now policy directory).value = .ok stories) ∧
      ¬ ((∃ record ∈ (load fs workingDirectory now policy directory).records, record.level = .error) ∧
        ∃ record ∈ (load fs workingDirectory now policy directory).records, record.level = .info) := by
  by_cases odd : fs.isDirectory workingDirectory directory ∧ OddlySpelled directory
  · have silent := load_of_oddlySpelled odd.1 odd.2 now policy
    refine ⟨fun spelled => absurd odd.2 (spelled odd.1), fun _ _ => silent, ?_⟩
    simp [silent]
  · have reports := reports_load wellNamed (not_and.mp odd) now policy
    refine ⟨fun _ => reports, fun isDirectory also => absurd ⟨isDirectory, also⟩ odd, ?_⟩
    exact ⟨reports.error_iff, reports.info_iff, reports.not_both⟩

theorem childFiles_pets : pets.ChildFiles [] "/s" [".a".toList, "a".toList, "b".toList] :=
  ⟨by decide, mem_iff_of_children hasChild_pets (by decide) (by decide +kernel)⟩

theorem childOthers_pets : pets.ChildOthers [] "/s" ["c".toList] :=
  ⟨by decide, mem_iff_of_children hasChild_pets (by decide) (by decide +kernel)⟩

/-- The directory is reported, the file that begins with a dot is skipped, and both stories are loaded. -/
theorem load_reports_pets :
    pets.WellNamed [] "/s" ∧
      Reports pets [] LoadPolicy.standard "/s" (load pets [] Instant.epoch LoadPolicy.standard "/s").records
        (load pets [] Instant.epoch LoadPolicy.standard "/s").value ∧
      (load pets [] Instant.epoch LoadPolicy.standard "/s").records =
        [⟨.debug, .requests, "Skipping non-regular file \"/s/c\"."⟩,
          ⟨.debug, .collection, "Skipping story file \"/s/.a\"."⟩,
          ⟨.debug, .collection, "Loaded story file \"/s/a\" with 1 fields."⟩,
          ⟨.debug, .collection, "Loaded story file \"/s/b\" with 1 fields."⟩,
          ⟨.info, .collection, "Loaded 2 story templates from /s."⟩] := by
  have isDirectory : pets.isDirectory [] "/s" := rfl
  have spelled : ¬ OddlySpelled "/s" := fun odd => odd.1 rfl
  refine ⟨wellNamed_pets, (load_reports wellNamed_pets Instant.epoch LoadPolicy.standard).1 fun _ => spelled, ?_⟩
  obtain ⟨others, names, irregular, files, listed⟩ := exists_filesIn_eq isDirectory wellNamed_pets spelled rfl
  obtain rfl := irregular.unique childOthers_pets
  obtain rfl := files.unique childFiles_pets
  rw [load, isDirectory, listed]
  decide +kernel

/-- A directory `d` with a story and a directory. -/
def yard : FileSystem :=
  let d : Location := [Text.utf8 "d"]
  ((FileSystem.empty.put d (.directory 0o755)).put (d ++ [Text.utf8 "a"]) (.file (Text.utf8 "My {pet}."))).put
    (d ++ [Text.utf8 "b"]) (.directory 0o755)

theorem hasChild_yard (name : Text) : yard.HasChild [] ".//d" name ↔ name ∈ ["a".toList, "b".toList] := by
  have names : yard.namesIn [Text.utf8 "d"] = ["a".toList, "b".toList].map Text.utf8 := by decide
  exact hasChild_iff_mem rfl names name

/-- Although there is a story in the directory `d`, the log of a load of `.//d` stays empty. -/
theorem load_silent_yard :
    yard.isDirectory [] ".//d" ∧ yard.ChildFiles [] ".//d" ["a".toList] ∧ yard.ChildOthers [] ".//d" ["b".toList] ∧
      load yard [] Instant.epoch LoadPolicy.standard ".//d" = ⟨.error (.emptyCollection ".//d"), []⟩ ∧
      ¬ ∀ (fs : FileSystem) (workingDirectory : Location) (now : Instant) (policy : LoadPolicy) (directory : Text),
        fs.WellNamed workingDirectory directory →
          Reports fs workingDirectory policy directory (load fs workingDirectory now policy directory).records
            (load fs workingDirectory now policy directory).value := by
  have isDirectory : yard.isDirectory [] ".//d" := rfl
  have files : yard.ChildFiles [] ".//d" ["a".toList] :=
    ⟨by decide, mem_iff_of_children hasChild_yard (by decide) (by decide +kernel)⟩
  have irregular : yard.ChildOthers [] ".//d" ["b".toList] :=
    ⟨by decide, mem_iff_of_children hasChild_yard (by decide) (by decide +kernel)⟩
  have silent : load yard [] Instant.epoch LoadPolicy.standard ".//d" = ⟨.error (.emptyCollection ".//d"), []⟩ :=
    load_of_oddlySpelled isDirectory ⟨by decide, rfl⟩ Instant.epoch LoadPolicy.standard
  refine ⟨isDirectory, files, irregular, silent, fun claim => ?_⟩
  have wellNamed : yard.WellNamed [] ".//d" := by
    intro name child
    have each : ∀ n ∈ ["a".toList, "b".toList], FileName.Proper (Text.utf8 n) := by decide
    exact each name ((hasChild_yard name).mp child)
  have reports := claim yard [] Instant.epoch LoadPolicy.standard ".//d" wellNamed
  rw [silent] at reports
  generalize nothing : ([] : List Record) = records at reports
  generalize ended : (Except.error (.emptyCollection ".//d") : Except StoryError Collection) = outcome at reports
  cases reports with
  | notDirectory | barred => cases ended
  | rejected => simp at nothing
  | empty _ _ others _ _ _ =>
    rw [others.unique irregular] at nothing
    cases nothing
  | loaded => cases ended

end Collection

end FillInStory
