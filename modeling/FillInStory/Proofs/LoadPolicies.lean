import FillInStory.Proofs.Collections

/-! # What a lighter policy loads

A policy is lighter than another if it takes no file that the other skips and accepts every template that
the other accepts. A load that succeeds under a policy meets no error under a lighter one: the files that are
taken are some of the files that were good before, in the same order, so the templates are some of the same
templates, unless there is none left (`load_of_lighter`). A policy that does not require fields is lighter than
one that does, and the shorter a start that is skipped, the lighter the policy; only the empty start skips
nothing at all.
-/

namespace FillInStory

namespace LoadPolicy

variable {policy other : LoadPolicy} {shorter longer : Text} {path : List UInt8}

theorem skips_iff (skipStart : Text) (path : List UInt8) :
    skips skipStart path ↔
      skipStart ≠ [] ∧ ∃ name, (FileName.ofPath? path).bind Text.ofUtf8? = some name ∧ skipStart <+: name := by
  unfold skips
  cases (FileName.ofPath? path).bind Text.ofUtf8? <;> simp

/-- A start skips whatever its extensions skip, and whatever the empty start skips, which is nothing. -/
theorem skips_of_skips (nonempty : shorter ≠ []) (extended : longer = [] ∨ shorter <+: longer)
    (skipped : skips longer path) : skips shorter path := by
  rw [skips_iff] at skipped ⊢
  obtain ⟨some, name, named, begins⟩ := skipped
  rcases extended with rfl | start
  · exact absurd rfl some
  · exact ⟨nonempty, name, named, start.trans begins⟩

/-- A policy takes no file that another skips, and accepts every template that the other accepts. -/
structure Lighter (policy other : LoadPolicy) : Prop where
  skips : ∀ path, LoadPolicy.skips other.skipStart path → LoadPolicy.skips policy.skipStart path
  requireFields : policy.requireFields → other.requireFields

theorem lighter_of_start (requireFields : Bool) (nonempty : shorter ≠ [])
    (extended : longer = [] ∨ shorter <+: longer) : Lighter ⟨requireFields, shorter⟩ ⟨requireFields, longer⟩ where
  skips _ := skips_of_skips nonempty extended
  requireFields := id

end LoadPolicy

namespace Template

variable {fs : FileSystem} {workingDirectory : Location} {requireFields : Bool} {path : Text}

/-- A file is made a template if it can be read as the text of the template, which has fields if they are
required. -/
theorem ofFile_eq_ok_iff (template : Template) :
    ofFile fs workingDirectory requireFields path = .ok template ↔
      fs.readText workingDirectory path = .ok template.text ∧
        (requireFields → template.fields.isEmpty = false) := by
  unfold ofFile
  cases fs.readText workingDirectory path with
  | error fault => simp
  | ok text =>
    have made : (ofText requireFields text).mapError (StoryError.templateParse path) = .ok template ↔
        ofText requireFields text = .ok template := by
      cases ofText requireFields text <;> simp [Except.mapError]
    rw [made, ofText_eq_ok_iff, Except.ok.injEq]
    constructor
    · rintro ⟨rfl, -, fields⟩
      exact ⟨rfl, fields⟩
    · rintro ⟨rfl, fields⟩
      exact ⟨rfl, template.parsed, fields⟩

theorem ofFile_of_lighter {policy other : LoadPolicy} {template : Template} (lighter : policy.Lighter other)
    (made : ofFile fs workingDirectory other.requireFields path = .ok template) :
    ofFile fs workingDirectory policy.requireFields path = .ok template := by
  rw [ofFile_eq_ok_iff] at made ⊢
  exact ⟨made.1, fun required => made.2 (lighter.requireFields required)⟩

end Template

namespace Collection

variable {fs : FileSystem} {workingDirectory : Location} {now : Instant} {policy other : LoadPolicy}
  {directory : Text} {stories : Collection}

/-- To a part of a list corresponds a part of any list that corresponds to the whole. -/
theorem exists_sublist_of_forall₂ {α β : Type} {related : α → β → Prop} {part as : List α} {bs : List β}
    (taken : part.Sublist as) (each : List.Forall₂ related as bs) :
    ∃ cs, cs.Sublist bs ∧ List.Forall₂ related part cs := by
  induction taken generalizing bs with
  | slnil => exact ⟨[], List.nil_sublist _, .nil⟩
  | cons a _ ih =>
    cases each with
    | cons head tail =>
      obtain ⟨cs, kept, same⟩ := ih tail
      exact ⟨cs, kept.cons _, same⟩
  | cons_cons a _ ih =>
    cases each with
    | cons head tail =>
      obtain ⟨cs, kept, same⟩ := ih tail
      exact ⟨_, kept.cons_cons _, .cons head same⟩

theorem keptPaths_sublist (lighter : policy.Lighter other) (paths : List Text) :
    (keptPaths policy paths).Sublist (keptPaths other paths) := by
  unfold keptPaths
  refine List.monotone_filter_right _ fun path kept => ?_
  rw [Bool.not_eq_true', Bool.eq_false_iff] at kept ⊢
  exact fun skipped => kept (lighter.skips _ skipped)

/-- What loads under a policy loads under a lighter one, so far as it is not skipped. -/
theorem load_of_lighter (lighter : policy.Lighter other)
    (loaded : (load fs workingDirectory now other directory).value = .ok stories) (later : Instant) :
    ∃ templates, templates.Sublist stories.templates ∧
      (load fs workingDirectory later policy directory).value = ofTemplates directory later templates := by
  obtain ⟨isDirectory, paths, listed, made, -⟩ := load_eq_ok_iff.mp loaded
  have accepted := made.imp fun _ _ => Template.ofFile_of_lighter lighter
  obtain ⟨templates, part, kept⟩ := exists_sublist_of_forall₂ (keptPaths_sublist lighter paths) accepted
  refine ⟨templates, part, ?_⟩
  rw [value_load_of_files isDirectory listed, (mapM_eq_ok_iff _ _ _).mpr kept]
  rfl

/-- Loading is monotone in the policy. What loads with fields required loads in the same way without; and what
loads while one start is skipped loads in part, or leaves an empty collection, while a shorter one is skipped or
any instead of none. -/
theorem load_policy_monotone (fs : FileSystem) (workingDirectory : Location) (directory : Text)
    (now later : Instant) (stories : Collection) :
    (∀ skipStart, (load fs workingDirectory now ⟨true, skipStart⟩ directory).value = .ok stories →
        ∃ same, (load fs workingDirectory later ⟨false, skipStart⟩ directory).value = .ok same ∧
          same.templates = stories.templates) ∧
      ∀ requireFields shorter longer, shorter ≠ [] → (longer = [] ∨ shorter <+: longer) →
        (load fs workingDirectory now ⟨requireFields, longer⟩ directory).value = .ok stories →
          (∃ fewer, (load fs workingDirectory later ⟨requireFields, shorter⟩ directory).value = .ok fewer ∧
            fewer.templates.Sublist stories.templates) ∨
          (load fs workingDirectory later ⟨requireFields, shorter⟩ directory).value =
            .error (.emptyCollection directory) := by
  constructor
  · intro skipStart loaded
    have lighter : LoadPolicy.Lighter ⟨false, skipStart⟩ ⟨true, skipStart⟩ := ⟨fun _ => id, nofun⟩
    obtain ⟨isDirectory, paths, listed, made, -⟩ := load_eq_ok_iff.mp loaded
    have accepted := made.imp fun _ _ => Template.ofFile_of_lighter lighter
    refine ⟨⟨stories.templates, stories.nonempty, later⟩, ?_, rfl⟩
    exact load_eq_ok_iff.mpr ⟨isDirectory, paths, listed, accepted, rfl⟩
  · intro requireFields shorter longer nonempty extended loaded
    obtain ⟨templates, part, result⟩ :=
      load_of_lighter (LoadPolicy.lighter_of_start requireFields nonempty extended) loaded later
    rw [result]
    by_cases empty : templates = []
    · exact Or.inr (by simp [ofTemplates, empty])
    · exact Or.inl ⟨⟨templates, empty, later⟩, by simp [ofTemplates, empty], part⟩

/-- A directory `/s` with three stories. -/
def menagerie : FileSystem :=
  let s : Location := [Text.utf8 "s"]
  (((FileSystem.empty.put s (.directory 0o755)).put (s ++ [Text.utf8 "pony"]) (.file (Text.utf8 "A {pony}."))).put
    (s ++ [Text.utf8 "zoo"]) (.file (Text.utf8 "The {zoo}."))).put (s ++ [Text.utf8 "pet"])
      (.file (Text.utf8 "My {pet}."))

def menagerieNames : List Text := ["pony", "zoo", "pet"]

theorem hasChild_menagerie (name : Text) : menagerie.HasChild [] "/s" name ↔ name ∈ menagerieNames := by
  have names : menagerie.namesIn [Text.utf8 "s"] = menagerieNames.map Text.utf8 := by decide
  exact FileSystem.hasChild_iff_mem rfl names name

theorem wellNamed_menagerie : menagerie.WellNamed [] "/s" := by
  intro name child
  have each : ∀ n ∈ menagerieNames, FileName.Proper (Text.utf8 n) := by decide
  exact each name ((hasChild_menagerie name).mp child)

/-- Skipping "po" leaves two of the stories and skipping "p" one of these two; without fields required the same two
are loaded. -/
theorem load_policy_monotone_menagerie :
    ∃ two one : Collection,
      (load menagerie [] Instant.epoch ⟨true, "po"⟩ "/s").value = .ok two ∧
        two.templates.map Template.text = ["My {pet}.".toList, "The {zoo}.".toList] ∧
        (∃ same, (load menagerie [] Instant.epoch ⟨false, "po"⟩ "/s").value = .ok same ∧
          same.templates = two.templates) ∧
        ("p".toList ≠ [] ∧ "p".toList <+: "po".toList) ∧
        (load menagerie [] Instant.epoch ⟨true, "p"⟩ "/s").value = .ok one ∧
        one.templates.map Template.text = ["The {zoo}.".toList] ∧ one.templates.Sublist two.templates := by
  let zoo : Template := ⟨"The {zoo}.", ⟨[⟨"zoo"⟩], by decide⟩, by decide⟩
  let two : Collection := ⟨[⟨"My {pet}.", ⟨[⟨"pet"⟩], by decide⟩, by decide⟩, zoo], by simp, Instant.epoch⟩
  let one : Collection := ⟨[zoo], by simp, Instant.epoch⟩
  have lists : menagerie.Lists [] "/s" := FileSystem.lists_of_isDirectory rfl (fun odd => odd.1 rfl) rfl
  have first : StoryFiles menagerie [] ⟨true, "po"⟩ "/s" ["pet".toList, "zoo".toList] :=
    storyFiles_of_children hasChild_menagerie (by decide) (by decide) (by decide +kernel)
  have second : StoryFiles menagerie [] ⟨true, "p"⟩ "/s" ["zoo".toList] :=
    storyFiles_of_children hasChild_menagerie (by decide) (by decide) (by decide +kernel)
  have several : Loads menagerie [] Instant.epoch ⟨true, "po"⟩ "/s" (.ok two) :=
    .loaded rfl first (.cons ⟨rfl, rfl⟩ (.cons ⟨rfl, rfl⟩ .nil)) rfl
  have single : Loads menagerie [] Instant.epoch ⟨true, "p"⟩ "/s" (.ok one) :=
    .loaded rfl second (.cons ⟨rfl, rfl⟩ .nil) rfl
  have loaded := several.value_load (fun _ => lists) wellNamed_menagerie
  have lighter := single.value_load (fun _ => lists) wellNamed_menagerie
  have start : "p".toList ≠ [] ∧ "p".toList <+: "po".toList := by decide
  obtain ⟨lenient, shorter⟩ := load_policy_monotone menagerie [] "/s" Instant.epoch Instant.epoch two
  refine ⟨two, one, loaded, rfl, lenient _ loaded, start, lighter, rfl, ?_⟩
  rcases shorter true _ _ start.1 (Or.inr start.2) loaded with ⟨fewer, found, part⟩ | none
  · obtain rfl := Except.ok.inj (lighter.symm.trans found)
    exact part
  · cases lighter.symm.trans none

end Collection

end FillInStory
