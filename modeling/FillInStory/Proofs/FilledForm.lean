import FillInStory.Proofs.Numeral
import FillInStory.Web.FilledForm
import FillInStory.Web.StoryCall

/-! # What a filled-in form says

The loop over the parameters stops early at a number that it cannot read and fills the field map as it
goes. All the same the outcome depends only on the value of the hidden input and on the other parameters
that were answered: braces keep different names apart, so no parameter takes the place of another one.
-/

namespace FillInStory

def otherParameters (parameters : Dictionary Text Text) : Dictionary Text Text :=
  parameters.filter fun name _ => name != templateParameter

/-- The entries of a dictionary whose values are not empty. -/
def answered (values : Dictionary Text Text) : Dictionary Text Text :=
  values.filter fun _ value => !value.isEmpty

/-- The keys of a field map are names in braces. -/
theorem FieldMap.get?_ofNames_eq_some_iff (values : Dictionary Text Text) (k v : Text) :
    Dictionary.get? (FieldMap.ofNames values) k = some v ↔
      ∃ name, k = braced name ∧ (name, v) ∈ values.entries := by
  rw [Dictionary.get?_eq_some_iff]
  constructor
  · intro member
    obtain ⟨⟨name, value⟩, present, same⟩ := List.mem_map.mp member
    obtain ⟨rfl, rfl⟩ := Prod.mk.inj same
    exact ⟨name, rfl, present⟩
  · rintro ⟨name, rfl, present⟩
    exact List.mem_map.mpr ⟨_, present, rfl⟩

/-- The field of a name has the value of the name. -/
theorem FieldMap.get?_ofNames (values : Dictionary Text Text) (name : Text) :
    Dictionary.get? (FieldMap.ofNames values) (braced name) = values.get? name := by
  apply Option.ext
  intro value
  rw [get?_ofNames_eq_some_iff, Dictionary.get?_eq_some_iff]
  constructor
  · rintro ⟨other, names, present⟩
    rwa [braced_injective names]
  · intro present
    exact ⟨name, rfl, present⟩

/-- The look-up of a name among the answered parameters. -/
theorem get?_answered_otherParameters (parameters : Dictionary Text Text) (name : Text) :
    (answered (otherParameters parameters)).get? name =
      ((otherParameters parameters).get? name).filter fun value => !value.isEmpty :=
  Dictionary.get?_filter _ _ name

theorem get?_otherParameters (parameters : Dictionary Text Text) {name : Text}
    (other : name ≠ templateParameter) : (otherParameters parameters).get? name = parameters.get? name := by
  rw [otherParameters, Dictionary.get?_filter]
  cases parameters.get? name with
  | none => rfl
  | some value => simp [other]

/-- Every number that a template may have is read from its decimal digits. -/
theorem readTemplateNumber_decimal {number : Nat} (within : number ≤ templateNumberLimit) :
    readTemplateNumber (Text.decimal number) = .ok number :=
  (Text.readNumeral_trim_eq_ok_iff _ _ _).mpr ⟨Text.standsFor_decimal number, within⟩

namespace FormReading

theorem step_number (reading : FormReading) (value : Text) :
    reading.step (templateParameter, value) =
      match readTemplateNumber value with
      | .error _ => .error (.invalidNumber value)
      | .ok number => .ok { reading with number := some number } := by
  cases read : readTemplateNumber value <;> simp [step, read]

theorem step_empty (reading : FormReading) {name : Text} (other : name ≠ templateParameter) :
    reading.step (name, []) = .ok reading := by
  simp [step, other]

theorem step_value (reading : FormReading) {name value : Text} (other : name ≠ templateParameter)
    (given : value ≠ []) :
    reading.step (name, value) =
      .ok { reading with fieldMap := reading.fieldMap.insert (braced name) value } := by
  simp [step, other, given]

theorem run_cons (reading : FormReading) (p : Text × Text) (rest : List (Text × Text)) :
    reading.run (p :: rest) = (reading.step p).bind fun next => next.run rest := rfl

theorem run_append (reading : FormReading) (first second : List (Text × Text)) :
    reading.run (first ++ second) = (reading.run first).bind fun next => next.run second :=
  List.foldlM_append

/-- What the loop puts into the field map for some parameters. -/
def entriesOf (parameters : List (Text × Text)) : List (Text × Text) :=
  (parameters.filter fun p => !p.2.isEmpty).map fun p => (braced p.1, p.2)

theorem mem_of_mem_entriesOf {parameters : List (Text × Text)} {name : Text}
    (present : braced name ∈ (entriesOf parameters).map Prod.fst) : name ∈ parameters.map Prod.fst := by
  obtain ⟨entry, member, same⟩ := List.mem_map.mp present
  obtain ⟨p, kept, rfl⟩ := List.mem_map.mp member
  exact List.mem_map.mpr ⟨p, List.mem_of_mem_filter kept, braced_injective same⟩

/-- Parameters other than the template's number are never refused, and those that have a value are added
to the field map in their order: distinct names stay distinct in braces. -/
theorem run_others (reading : FormReading) {parameters : List (Text × Text)}
    (distinct : (parameters.map Prod.fst).Nodup) (others : templateParameter ∉ parameters.map Prod.fst)
    (fresh : ∀ p ∈ parameters, braced p.1 ∉ Dictionary.keys reading.fieldMap) :
    ∃ filled : FieldMap, reading.run parameters = .ok ⟨reading.number, filled⟩ ∧
      filled.entries = reading.fieldMap.entries ++ entriesOf parameters := by
  induction parameters generalizing reading with
  | nil => exact ⟨reading.fieldMap, rfl, by simp [entriesOf]⟩
  | cons p rest ih =>
    obtain ⟨name, value⟩ := p
    simp only [List.map_cons, List.nodup_cons, List.mem_cons, not_or] at distinct others
    simp only [List.forall_mem_cons] at fresh
    by_cases given : value = []
    · subst given
      obtain ⟨filled, ran, entries⟩ := ih reading distinct.2 others.2 fresh.2
      refine ⟨filled, ?_, entries⟩
      rw [run_cons, step_empty reading (Ne.symm others.1)]
      exact ran
    · have added : (reading.fieldMap.insert (braced name) value).entries =
          reading.fieldMap.entries ++ [(braced name, value)] :=
        Dictionary.entries_insert_of_notMem fresh.1 value
      have stillFresh : ∀ q ∈ rest, braced q.1 ∉ (reading.fieldMap.insert (braced name) value).keys := by
        intro q member present
        rw [Dictionary.keys, added, List.map_append, List.mem_append] at present
        rcases present with before | last
        · exact fresh.2 q member before
        · have same : q.1 = name := braced_injective (by simpa using last)
          exact distinct.1 (same ▸ List.mem_map_of_mem (f := Prod.fst) member)
      obtain ⟨filled, ran, entries⟩ :=
        ih ⟨reading.number, reading.fieldMap.insert (braced name) value⟩ distinct.2 others.2 stillFresh
      refine ⟨filled, ?_, ?_⟩
      · rw [run_cons, step_value reading (Ne.symm others.1) given]
        exact ran
      · rw [entries, added]
        simp [entriesOf, given]

theorem filter_other {parameters : List (Text × Text)}
    (others : templateParameter ∉ parameters.map Prod.fst) :
    parameters.filter (fun p => p.1 != templateParameter) = parameters := by
  rw [List.filter_eq_self]
  intro p member
  simpa using fun same : p.1 = templateParameter => others (same ▸ List.mem_map_of_mem member)

/-- The hidden input may come anywhere among the parameters. If its value is a number, the parameters
before and after it are read as if it were not there, and otherwise nothing after it is read. -/
theorem run_around {before after : List (Text × Text)} {value : Text}
    (distinct : ((before ++ (templateParameter, value) :: after).map Prod.fst).Nodup) :
    match readTemplateNumber value with
    | .error _ => start.run (before ++ (templateParameter, value) :: after) = .error (.invalidNumber value)
    | .ok number => ∃ filled : FieldMap,
        start.run (before ++ (templateParameter, value) :: after) = .ok ⟨some number, filled⟩ ∧
          filled.entries = entriesOf ((before ++ (templateParameter, value) :: after).filter
            fun p => p.1 != templateParameter) := by
  rw [List.map_append, List.map_cons, List.nodup_append] at distinct
  obtain ⟨distinctBefore, distinctRest, apart⟩ := distinct
  obtain ⟨notAfter, distinctAfter⟩ := List.nodup_cons.mp distinctRest
  have notBefore : templateParameter ∉ before.map Prod.fst := fun present =>
    apart _ present _ (List.mem_cons_self ..) rfl
  obtain ⟨first, ranBefore, firstEntries⟩ :=
    start.run_others distinctBefore notBefore fun _ _ => List.not_mem_nil
  have firstEntries : first.entries = entriesOf before := firstEntries
  have reached : start.run (before ++ (templateParameter, value) :: after) =
      ((⟨none, first⟩ : FormReading).step (templateParameter, value)).bind fun next => next.run after := by
    rw [run_append, ranBefore]
    rfl
  rw [reached, step_number]
  cases readTemplateNumber value with
  | error e => rfl
  | ok number =>
    -- the map has braced names from before the number, and none of them comes again after it
    have fresh : ∀ p ∈ after, braced p.1 ∉ Dictionary.keys first := by
      intro p member present
      rw [Dictionary.keys, firstEntries] at present
      exact apart _ (mem_of_mem_entriesOf present) _
        (List.mem_cons_of_mem _ (List.mem_map_of_mem member)) rfl
    obtain ⟨filled, ranAfter, entries⟩ := run_others ⟨some number, first⟩ distinctAfter notAfter fresh
    refine ⟨filled, ranAfter, ?_⟩
    rw [entries, firstEntries, List.filter_append, List.filter_cons_of_neg (by simp),
      filter_other notBefore, filter_other notAfter]
    simp [entriesOf]

end FormReading

namespace FilledForm

/-- The outcome of the loop, whatever the order of the parameters: the number decides, and the field map
has the answered ones among the others. -/
theorem ofParameters_eq (parameters : Dictionary Text Text) :
    ofParameters parameters =
      match parameters.get? templateParameter with
      | none => .error .missingTemplate
      | some value =>
        match readTemplateNumber value with
        | .error _ => .error (.invalidNumber value)
        | .ok number => .ok ⟨number, FieldMap.ofNames (answered (otherParameters parameters))⟩ := by
  have distinct := parameters.nodup_keys
  cases found : parameters.get? templateParameter with
  | none =>
    have absent := (Dictionary.get?_eq_none_iff parameters _).mp found
    obtain ⟨filled, ran, -⟩ := FormReading.start.run_others distinct absent fun _ _ => List.not_mem_nil
    rw [ofParameters, ran]
    rfl
  | some value =>
    have member := (Dictionary.get?_eq_some_iff parameters _ _).mp found
    obtain ⟨before, after, split⟩ := List.append_of_mem member
    rw [split] at distinct
    have outcome := FormReading.run_around distinct
    rw [ofParameters, split]
    dsimp only
    cases read : readTemplateNumber value with
    | error e =>
      rw [read] at outcome
      rw [outcome]
      rfl
    | ok number =>
      rw [read] at outcome
      obtain ⟨filled, ran, entries⟩ := outcome
      have same : filled = FieldMap.ofNames (answered (otherParameters parameters)) := by
        apply Dictionary.ext
        rw [entries, ← split]
        rfl
      rw [ran, ← same]
      rfl

end FilledForm

end FillInStory
