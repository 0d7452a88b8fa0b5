import FillInStory.Story.StoryError
import FillInStory.Story.Template
import FillInStory.Time.Instant

/-! # Collections of story templates

A collection is a sequence of templates that is never empty and never changes; a template is known by its
number in it. The random choice of a template takes the drawn number as an argument, and every number that
can be drawn is the number of a template. The choice guards against a collection without templates all the
same; there is none.
-/

namespace FillInStory

/-- At least one template, and the time when they were put together. -/
structure Collection where
  templates : List Template
  nonempty : templates ≠ []
  loadedAt : Instant

namespace Collection

/-- Puts templates together that come from a place. -/
def ofTemplates (place : Text) (now : Instant) (templates : List Template) :
    Except StoryError Collection :=
  if nonempty : templates = [] then .error (.emptyCollection place) else .ok ⟨templates, nonempty, now⟩

/-- The place of templates that come from no directory. -/
def inMemory : Text := "<memory>"

def size (stories : Collection) : Nat := stories.templates.length

def get (stories : Collection) (number : Nat) : Except StoryError Template :=
  match stories.templates[number]? with
  | some template => .ok template
  | none => .error (.indexOutOfRange number stories.size)

/-- The story that the template with a number tells with the given values. -/
def populate (stories : Collection) (number : Nat) (values : FieldMap) : Except StoryError Text :=
  (stories.get number).map (·.populate values)

/-- The template that a draw chooses, with its number. -/
def choose (stories : Collection) (draw : Fin stories.size) : Except StoryError (Nat × Template) :=
  if stories.templates.isEmpty then .error (.emptyCollection inMemory)
  else .ok (draw, stories.templates.get draw)

theorem size_pos (stories : Collection) : 0 < stories.size :=
  List.length_pos_iff.mpr stories.nonempty

/-- The guard of the choice is never taken. -/
theorem choose_eq_ok (stories : Collection) (draw : Fin stories.size) :
    stories.choose draw = .ok (draw.val, stories.templates.get draw) := by
  have some : ¬ stories.templates.isEmpty := fun empty => stories.nonempty (List.isEmpty_iff.mp empty)
  rw [choose, if_neg some]

/-! ## Lookup -/

variable (stories : Collection)

theorem get_of_lt {number : Nat} (small : number < stories.size) :
    stories.get number = .ok (stories.templates.get ⟨number, small⟩) := by
  unfold get
  rw [List.getElem?_eq_getElem small]
  rfl

theorem get_of_le {number : Nat} (large : stories.size ≤ number) :
    stories.get number = .error (.indexOutOfRange number stories.size) := by
  simp [get, List.getElem?_eq_none large]

theorem populate_of_getElem? {number : Nat} {template : Template}
    (found : stories.templates[number]? = some template) (values : FieldMap) :
    stories.populate number values = .ok (template.populate values) := by
  simp [populate, get, found, Except.map]

theorem populate_of_lt {number : Nat} (small : number < stories.size) :
    ∃ template, stories.templates[number]? = some template ∧
      ∀ values, stories.populate number values = .ok (template.populate values) :=
  ⟨_, List.getElem?_eq_getElem small, stories.populate_of_getElem? (List.getElem?_eq_getElem small)⟩

theorem populate_of_le {number : Nat} (large : stories.size ≤ number) (values : FieldMap) :
    stories.populate number values = .error (.indexOutOfRange number stories.size) := by
  simp [populate, stories.get_of_le large, Except.map]

end Collection

end FillInStory
