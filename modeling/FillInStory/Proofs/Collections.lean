import FillInStory.Proofs.Loading

/-! # Every collection that can be built is valid

A template is made of a text or of a file, and a collection of the templates of a directory or of templates
that are made already. Whichever way it was built, a collection has a template for every number that can be
drawn, its templates hold the fields that their texts parse to, and its numbers are those below its size. If
it was loaded with fields required, every template has one, which can be seen from an opening brace in its
text.
-/

namespace FillInStory

namespace Template

/-- The ways to make a template, with fields required or not. -/
inductive Made (requireFields : Bool) : Template → Prop
  | ofText {text : Text} {template : Template} (made : ofText requireFields text = .ok template) :
    Made requireFields template
  | ofFile {fs : FileSystem} {workingDirectory : Location} {path : Text} {template : Template}
    (made : ofFile fs workingDirectory requireFields path = .ok template) : Made requireFields template

/-- A text makes the template with its fields, if there are any where they are required. -/
theorem ofText_eq_ok_iff (requireFields : Bool) (text : Text) (template : Template) :
    ofText requireFields text = .ok template ↔
      template.text = text ∧ FieldSet.parse text = .ok template.fields ∧
        (requireFields = true → template.fields.isEmpty = false) := by
  constructor
  · intro made
    refine ⟨text_of_ofText made, ?_⟩
    unfold ofText at made
    split at made
    · cases made
    · next fields parses =>
      split_ifs at made with refused
      cases made
      exact ⟨parses, fun required => by simpa [required] using refused⟩
  · rintro ⟨rfl, parses, some⟩
    unfold ofText
    split
    · next e failed => cases failed.symm.trans parses
    · next fields found =>
      obtain rfl : fields = template.fields := Except.ok.inj (found.symm.trans parses)
      have accepted : ¬ (requireFields && template.fields.isEmpty) = true := by
        simpa using some
      rw [if_neg accepted]

/-- A file makes the template of the text that it contains. -/
theorem exists_ofText_of_ofFile {fs : FileSystem} {workingDirectory : Location} {requireFields : Bool}
    {path : Text} {template : Template} (made : ofFile fs workingDirectory requireFields path = .ok template) :
    ∃ text, ofText requireFields text = .ok template := by
  rcases accepted_or_rejected fs workingDirectory requireFields path with ⟨other, accepted⟩ | ⟨e, rejected⟩
  · obtain rfl := Except.ok.inj (made.symm.trans accepted.ofFile_eq)
    exact ⟨_, accepted.made⟩
  · cases made.symm.trans rejected.ofFile_eq

variable {requireFields : Bool} {template : Template}

theorem Made.exists_ofText (made : Made requireFields template) :
    ∃ text, Template.ofText requireFields text = .ok template := by
  cases made with
  | ofText made => exact ⟨_, made⟩
  | ofFile made => exact exists_ofText_of_ofFile made

theorem Made.parse_eq (made : Made requireFields template) :
    FieldSet.parse template.text = .ok template.fields := by
  obtain ⟨text, made⟩ := made.exists_ofText
  obtain ⟨rfl, parses, -⟩ := (ofText_eq_ok_iff _ _ _).mp made
  exact parses

theorem Made.isEmpty_eq_false (made : Made true template) : template.fields.isEmpty = false := by
  obtain ⟨text, made⟩ := made.exists_ofText
  exact ((ofText_eq_ok_iff _ _ _).mp made).2.2 rfl

end Template

/-- A text that parses has a field exactly when there is an opening brace in it. -/
theorem FieldSet.isEmpty_eq_false_iff_of_parse {t : Text} {fields : FieldSet}
    (parses : FieldSet.parse t = .ok fields) : fields.isEmpty = false ↔ '{' ∈ t := by
  obtain ⟨segments, ⟨proper, rfl⟩, rfl⟩ := (parse_eq_ok_iff _ _).mp parses
  have listed (f : Field) : f ∈ (ofList (Segment.fields segments)).toList ↔ .field f ∈ segments :=
    ((firstOccurrences_ofList _).mem_iff f).trans Segment.mem_fields
  rw [isEmpty, List.isEmpty_eq_false_iff_exists_mem]
  simp only [listed, Segment.write, List.mem_flatMap]
  constructor
  · rintro ⟨f, member⟩
    exact ⟨.field f, member, List.mem_cons_self⟩
  · rintro ⟨s, member, brace⟩
    cases s with
    | plain c => exact absurd (List.mem_singleton.mp brace).symm (proper _ member).1
    | field f => exact ⟨f, member⟩

namespace Collection

/-- The ways to build a collection, and whether fields were required of all of its templates. -/
inductive Built : Bool → Collection → Prop
  | fromDirectory {fs : FileSystem} {workingDirectory : Location} {now : Instant} {policy : LoadPolicy}
    {directory : Text} {stories : Collection}
    (loaded : (load fs workingDirectory now policy directory).value = .ok stories) :
    Built policy.requireFields stories
  | fromMemory {place : Text} {now : Instant} {templates : List Template} {stories : Collection}
    (made : ∀ template ∈ templates, ∃ requireFields, Template.Made requireFields template)
    (together : ofTemplates place now templates = .ok stories) : Built false stories

/-- What a collection is good for: a template can be drawn, every template holds the fields of its text, and
the templates are known by the numbers below the size, and by no others. -/
structure Valid (stories : Collection) : Prop where
  drawable : 0 < stories.size
  parsed : ∀ template ∈ stories.templates, FieldSet.parse template.text = .ok template.fields
  chosen : ∀ draw : Fin stories.size, ∃ template,
    stories.choose draw = .ok (draw.val, template) ∧ stories.get draw = .ok template
  known : ∀ number, number < stories.size → ∃ template ∈ stories.templates,
    stories.get number = .ok template ∧
      ∀ values, stories.populate number values = .ok (template.populate values)
  unknown : ∀ number, stories.size ≤ number →
    stories.get number = .error (.indexOutOfRange number stories.size) ∧
      ∀ values, stories.populate number values = .error (.indexOutOfRange number stories.size)

variable {requireFields : Bool} {stories : Collection}

/-- Templates make a collection if there are any. -/
theorem ofTemplates_eq_ok_iff (place : Text) (now : Instant) (templates : List Template) (stories : Collection) :
    ofTemplates place now templates = .ok stories ↔
      templates ≠ [] ∧ stories.templates = templates ∧ stories.loadedAt = now := by
  unfold ofTemplates
  split_ifs with empty
  · simp [empty]
  · cases stories
    simp [empty, eq_comm]

/-- Of two lists that correspond to each other, every member of the second belongs to one of the first. -/
theorem exists_of_mem_of_forall₂ {α β : Type} {related : α → β → Prop} {as : List α} {bs : List β}
    (each : List.Forall₂ related as bs) {b : β} (member : b ∈ bs) : ∃ a ∈ as, related a b := by
  induction each with
  | nil => cases member
  | cons head _ ih =>
    rcases List.mem_cons.mp member with rfl | later
    · exact ⟨_, List.mem_cons_self, head⟩
    · obtain ⟨a, present, holds⟩ := ih later
      exact ⟨a, List.mem_cons_of_mem _ present, holds⟩

/-- A load succeeds exactly if its path leads to a directory that can be listed, in which there is a file that is
not skipped, and every such file is made a template; these are the templates of the collection, in the order of the
files. -/
theorem load_eq_ok_iff {fs : FileSystem} {workingDirectory : Location} {now : Instant} {policy : LoadPolicy}
    {directory : Text} :
    (load fs workingDirectory now policy directory).value = .ok stories ↔
      fs.isDirectory workingDirectory directory ∧
        ∃ paths, (fs.filesIn workingDirectory directory).value = .ok paths ∧
          List.Forall₂
            (fun path template => Template.ofFile fs workingDirectory policy.requireFields path = .ok template)
            (keptPaths policy paths) stories.templates ∧ stories.loadedAt = now := by
  by_cases isDirectory : fs.isDirectory workingDirectory directory
  · cases listed : (fs.filesIn workingDirectory directory).value with
    | error message => simp [value_load_of_unlisted isDirectory listed]
    | ok paths =>
      rw [value_load_of_files isDirectory listed, bind_eq_ok_iff]
      simp only [mapM_eq_ok_iff, ofTemplates_eq_ok_iff, isDirectory, Except.ok.injEq, exists_eq_left', true_and]
      constructor
      · rintro ⟨templates, made, -, rfl, time⟩
        exact ⟨made, time⟩
      · rintro ⟨made, time⟩
        exact ⟨_, made, stories.nonempty, rfl, time⟩
  · simp [load, isDirectory]

/-- A load that succeeds puts the templates of files together. -/
theorem exists_ofTemplates_of_load {fs : FileSystem} {workingDirectory : Location} {now : Instant}
    {policy : LoadPolicy} {directory : Text}
    (loaded : (load fs workingDirectory now policy directory).value = .ok stories) :
    ∃ templates, (∀ template ∈ templates, Template.Made policy.requireFields template) ∧
      ofTemplates directory now templates = .ok stories := by
  obtain ⟨-, paths, -, made, time⟩ := load_eq_ok_iff.mp loaded
  refine ⟨stories.templates, ?_, (ofTemplates_eq_ok_iff _ _ _ _).mpr ⟨stories.nonempty, rfl, time⟩⟩
  intro template member
  obtain ⟨path, -, made⟩ := exists_of_mem_of_forall₂ made member
  exact .ofFile made

/-- However a collection was built, it was put together from templates that were made one by one. -/
theorem Built.exists_ofTemplates (built : Built requireFields stories) :
    ∃ place now templates, ofTemplates place now templates = .ok stories ∧
      ∀ template ∈ templates, ∃ required, (requireFields = true → required = true) ∧
        Template.Made required template := by
  cases built with
  | fromDirectory loaded =>
    obtain ⟨templates, made, together⟩ := exists_ofTemplates_of_load loaded
    exact ⟨_, _, templates, together, fun template member => ⟨_, id, made template member⟩⟩
  | fromMemory made together =>
    refine ⟨_, _, _, together, fun template member => ?_⟩
    obtain ⟨required, made⟩ := made template member
    exact ⟨required, nofun, made⟩

/-- The templates of a collection hold the fields that their texts parse to. -/
theorem Built.parse_eq (built : Built requireFields stories) :
    ∀ template ∈ stories.templates, FieldSet.parse template.text = .ok template.fields := by
  obtain ⟨place, now, templates, together, made⟩ := built.exists_ofTemplates
  obtain ⟨-, rfl, -⟩ := (ofTemplates_eq_ok_iff _ _ _ _).mp together
  intro template member
  obtain ⟨required, -, made⟩ := made template member
  exact made.parse_eq

/-- Every collection that can be built is valid. If fields were required every template has one, which it
has exactly when there is an opening brace in its text. -/
theorem valid_of_built (built : Built requireFields stories) :
    stories.Valid ∧
      (requireFields = true → ∀ template ∈ stories.templates, template.fields.isEmpty = false) ∧
        ∀ template ∈ stories.templates, template.fields.isEmpty = false ↔ '{' ∈ template.text := by
  obtain ⟨place, now, templates, together, made⟩ := built.exists_ofTemplates
  obtain ⟨-, rfl, -⟩ := (ofTemplates_eq_ok_iff _ _ _ _).mp together
  refine ⟨?_, fun required template member => ?_, fun template member => ?_⟩
  · exact {
      drawable := stories.size_pos
      parsed := built.parse_eq
      chosen := fun draw => ⟨_, stories.choose_eq_ok draw, stories.get_of_lt draw.isLt⟩
      known := fun number small => ⟨_, List.get_mem _ _, stories.get_of_lt small,
        stories.populate_of_getElem? (List.getElem?_eq_getElem small)⟩
      unknown := fun number large => ⟨stories.get_of_le large, stories.populate_of_le large⟩ }
  · obtain ⟨kept, still, made⟩ := made template member
    obtain rfl := still required
    exact made.isEmpty_eq_false
  · exact FieldSet.isEmpty_eq_false_iff_of_parse (built.parse_eq template member)

/-- The two stories of a directory, loaded with fields required, are known by the numbers 0 and 1. -/
theorem valid_of_built_pets :
    ∃ stories, Built true stories ∧ stories.size = 2 ∧ stories.Valid ∧
      ∀ template ∈ stories.templates, template.fields.isEmpty = false := by
  let stories : Collection := ⟨[⟨"I am {age}.", ⟨[⟨"age"⟩], by decide⟩, by decide⟩,
    ⟨"My {pet}.", ⟨[⟨"pet"⟩], by decide⟩, by decide⟩], by simp, Instant.epoch⟩
  have loads : Loads pets [] Instant.epoch LoadPolicy.standard "/s" (.ok stories) :=
    .loaded rfl storyFiles_pets (.cons ⟨rfl, rfl⟩ (.cons ⟨rfl, rfl⟩ .nil)) rfl
  have loaded := loads.value_load
    (fun isDirectory => FileSystem.lists_of_isDirectory isDirectory (fun odd => odd.1 rfl) rfl) wellNamed_pets
  have built : Built LoadPolicy.standard.requireFields stories := .fromDirectory loaded
  obtain ⟨valid, fields, -⟩ := valid_of_built built
  exact ⟨stories, built, rfl, valid, fields rfl⟩

end Collection

end FillInStory
