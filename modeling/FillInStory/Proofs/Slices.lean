import FillInStory.Proofs.Utf8
import Mathlib.Data.List.Basic

/-! # Slices of a text between byte positions

A text is stored as its UTF-8 bytes, and a part of it is named by the byte positions where it begins and ends. There
is such a part only if the positions are in order, within the text and between characters; a position that a search
has found is one of these, and so is the position behind the character that was searched for.
-/

namespace FillInStory.Text

/-- Whether a byte position lies between characters: at the end of a text, or at a byte that begins a character. -/
def isBoundary (t : Text) (position : Nat) : Bool :=
  match (utf8 t)[position]? with
  | some b => b.IsUTF8FirstByte
  | none => position = t.byteSize

/-- The part of a text from one byte position up to another, unless one of them is out of range or inside a
character, or the part would end before it begins. -/
def slice? (t : Text) (start stop : Nat) : Option Text :=
  if start ≤ stop && t.isBoundary start && t.isBoundary stop then ofUtf8? (((utf8 t).take stop).drop start)
  else none

def find? (c : Char) : Text → Option Nat
  | [] => none
  | d :: rest => if d = c then some 0 else (find? c rest).map (d.utf8Size + ·)

/-! ## Boundaries -/

/-- The end of the first of two texts is a boundary. -/
theorem isBoundary_append (s t : Text) : (s ++ t).isBoundary s.byteSize := by
  have here : (utf8 (s ++ t))[s.byteSize]? = (utf8 t)[0]? := by
    rw [utf8_append, ← length_utf8, List.getElem?_append_right (Nat.le_refl _), Nat.sub_self]
  unfold isBoundary
  rw [here]
  cases t with
  | nil => simp
  | cons c t =>
    have long : 0 < (String.utf8EncodeChar c).length := by simpa using c.utf8Size_pos
    rw [utf8_cons, List.getElem?_append_left long, List.getElem?_eq_getElem long]
    simp

/-- A boundary behind the first character is one of what follows that character. -/
theorem isBoundary_of_cons {c : Char} {t : Text} {position : Nat} (outside : c.utf8Size ≤ position)
    (boundary : isBoundary (c :: t) position) : t.isBoundary (position - c.utf8Size) := by
  have long : (String.utf8EncodeChar c).length ≤ position := by simpa using outside
  unfold isBoundary at boundary ⊢
  rw [utf8_cons, List.getElem?_append_right long, String.length_utf8EncodeChar] at boundary
  split at boundary
  · exact boundary
  · rw [decide_eq_true_eq, byteSize_cons] at boundary
    exact decide_eq_true (by omega)

/-- A boundary inside the first character is the start of the text. -/
theorem eq_zero_of_isBoundary_cons {c : Char} {t : Text} {position : Nat} (inside : position < c.utf8Size)
    (boundary : isBoundary (c :: t) position) : position = 0 := by
  have short : position < (String.utf8EncodeChar c).length := by simpa using inside
  unfold isBoundary at boundary
  rw [utf8_cons, List.getElem?_append_left short, List.getElem?_eq_getElem short] at boundary
  exact UInt8.isUTF8FirstByte_getElem_utf8EncodeChar.mp (of_decide_eq_true boundary)

/-- The boundaries of a text are the places where it can be cut in two. -/
theorem isBoundary_iff (t : Text) (position : Nat) :
    t.isBoundary position ↔ ∃ before after, t = before ++ after ∧ before.byteSize = position := by
  constructor
  · intro boundary
    induction t generalizing position with
    | nil => exact ⟨[], [], rfl, (of_decide_eq_true boundary).symm⟩
    | cons c t ih =>
      by_cases inside : position < c.utf8Size
      · exact ⟨[], c :: t, rfl, (eq_zero_of_isBoundary_cons inside boundary).symm⟩
      · have outside := Nat.le_of_not_lt inside
        obtain ⟨before, after, rfl, size⟩ := ih _ (isBoundary_of_cons outside boundary)
        refine ⟨c :: before, after, rfl, ?_⟩
        rw [byteSize_cons, size]
        omega
  · rintro ⟨before, after, rfl, rfl⟩
    exact isBoundary_append before after

/-! ## Slices -/

/-- A text in the middle of others is a slice of them all. -/
theorem slice?_append (before middle after : Text) :
    (before ++ (middle ++ after)).slice? before.byteSize (before.byteSize + middle.byteSize) = some middle := by
  have first := isBoundary_append before (middle ++ after)
  have second := isBoundary_append (before ++ middle) after
  rw [List.append_assoc, byteSize_append] at second
  have bytes : ((utf8 (before ++ (middle ++ after))).take (before.byteSize + middle.byteSize)).drop before.byteSize =
      utf8 middle := by
    rw [utf8_append, utf8_append, ← length_utf8, ← length_utf8, List.take_length_add_append, List.take_left,
      List.drop_left]
  unfold slice?
  rw [first, second, bytes, ofUtf8?_utf8]
  simp

/-- Between two boundaries in order there stands a part of the text. -/
theorem exists_between {t : Text} {start stop : Nat} (order : start ≤ stop) (first : t.isBoundary start)
    (second : t.isBoundary stop) :
    ∃ before middle after, t = before ++ (middle ++ after) ∧ before.byteSize = start ∧
      before.byteSize + middle.byteSize = stop := by
  obtain ⟨before, rest, rfl, rfl⟩ := (isBoundary_iff t start).mp first
  obtain ⟨through, after, split, rfl⟩ := (isBoundary_iff _ stop).mp second
  rcases List.append_eq_append_iff.mp split with ⟨middle, rfl, rfl⟩ | ⟨extra, rfl, rfl⟩
  · exact ⟨before, middle, after, rfl, rfl, (byteSize_append before middle).symm⟩
  · -- the second boundary is not before the first, so nothing stands between them
    rw [byteSize_append] at order ⊢
    exact ⟨through ++ extra, [], rest, rfl, byteSize_append .., by simp; omega⟩

/-- A slice fails if its ends are not in order or one of them is no boundary, and for no other reason. -/
theorem slice?_eq_none_iff (t : Text) (start stop : Nat) :
    t.slice? start stop = none ↔ ¬ (start ≤ stop ∧ t.isBoundary start ∧ t.isBoundary stop) := by
  constructor
  · rintro failed ⟨order, first, second⟩
    obtain ⟨before, middle, after, rfl, rfl, rfl⟩ := exists_between order first second
    rw [slice?_append] at failed
    contradiction
  · intro outside
    unfold slice?
    rw [if_neg (by simpa [and_assoc] using outside)]

/-- A position inside a character of two bytes, and the one behind it. -/
example : slice? "aéb" 2 4 = none ∧ slice? "aéb" 3 4 = some "b" := by decide

/-- A slice from the start. -/
theorem slice?_zero (part after : Text) : (part ++ after).slice? 0 part.byteSize = some part := by
  simpa using slice?_append [] part after

/-- A slice up to the end. -/
theorem slice?_byteSize (before part : Text) :
    (before ++ part).slice? before.byteSize (before ++ part).byteSize = some part := by
  simpa using slice?_append before part []

/-! ## Searches -/

theorem find?_eq_none_iff (c : Char) (t : Text) : find? c t = none ↔ c ∉ t := by
  induction t with
  | nil => simp [find?]
  | cons d t ih =>
    by_cases same : d = c
    · simp [find?, same]
    · simp [find?, same, Ne.symm same, ih]

/-- A search finds the end of what stands before the first occurrence. -/
theorem find?_append_cons {c : Char} {before : Text} (absent : c ∉ before) (after : Text) :
    find? c (before ++ c :: after) = some before.byteSize := by
  induction before with
  | nil => simp [find?]
  | cons d before ih =>
    simp only [List.mem_cons, not_or] at absent
    simp [find?, Ne.symm absent.1, ih absent.2]

/-- What a search finds is the byte position of the first occurrence. -/
theorem find?_eq_some_iff (c : Char) (t : Text) (position : Nat) :
    find? c t = some position ↔
      ∃ before after, t = before ++ c :: after ∧ c ∉ before ∧ before.byteSize = position := by
  constructor
  · intro found
    by_cases member : c ∈ t
    · obtain ⟨before, after, rfl, absent⟩ := List.eq_append_cons_of_mem member
      rw [find?_append_cons absent] at found
      exact ⟨before, after, rfl, absent, Option.some.inj found⟩
    · rw [(find?_eq_none_iff c t).mpr member] at found
      contradiction
  · rintro ⟨before, after, rfl, absent, rfl⟩
    exact find?_append_cons absent after

end FillInStory.Text
