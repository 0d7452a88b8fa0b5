import FillInStory.Text.Utf8

/-! # File names and locations

A file name is a list of bytes without a slash, and most names are texts in UTF-8. A location is where an
entry stands: the names on the way to it from the root. Names are ordered by their bytes, and paths part
by part, where empty parts and single dots do not count, except for a dot at the start.
-/

namespace FillInStory

abbrev FileName := List UInt8

/-- The names on the way from the root directory to an entry. -/
abbrev Location := List FileName

def slashByte : UInt8 := 47

namespace FileName

/-- The name that stands for the directory itself. -/
def self : FileName := [46]

/-- The name that stands for the directory above. -/
def parent : FileName := [46, 46]

/-- Lexicographic order by bytes, the shorter of two names first if it begins the other. -/
def le : FileName → FileName → Bool
  | [], _ => true
  | _ :: _, [] => false
  | a :: s, b :: t => a < b || (a == b && le s t)

theorem le_total (s t : FileName) : le s t || le t s := by
  induction s generalizing t with
  | nil => simp [le]
  | cons a s ih =>
    cases t with
    | nil => simp [le]
    | cons b t =>
      by_cases same : a = b
      · subst same
        simpa [le] using ih t
      · rcases UInt8.lt_or_lt_of_ne same with lt | lt <;> simp [le, lt]

theorem le_trans {r s t : FileName} (first : le r s) (second : le s t) : le r t := by
  induction r generalizing s t with
  | nil => simp [le]
  | cons a r ih =>
    cases s with
    | nil => simp [le] at first
    | cons b s =>
      cases t with
      | nil => simp [le] at second
      | cons c t =>
        simp only [le, Bool.or_eq_true, decide_eq_true_eq, Bool.and_eq_true, beq_iff_eq] at first second ⊢
        rcases first with lt | ⟨rfl, first⟩ <;> rcases second with lt' | ⟨rfl, second⟩
        · exact Or.inl (UInt8.lt_trans lt lt')
        · exact Or.inl lt
        · exact Or.inl lt'
        · exact Or.inr ⟨rfl, ih first second⟩

theorem le_antisymm {s t : FileName} (first : le s t) (second : le t s) : s = t := by
  induction s generalizing t with
  | nil => cases t <;> simp_all [le]
  | cons a s ih =>
    cases t with
    | nil => simp [le] at first
    | cons b t =>
      simp only [le, Bool.or_eq_true, decide_eq_true_eq, Bool.and_eq_true, beq_iff_eq] at first second
      rcases first with lt | ⟨rfl, first⟩
      · rcases second with lt' | ⟨rfl, _⟩
        · exact absurd lt' (UInt8.lt_asymm lt)
        · exact absurd lt (UInt8.lt_irrefl _)
      · rcases second with lt' | ⟨_, second⟩
        · exact absurd lt' (UInt8.lt_irrefl _)
        · rw [ih first second]

end FileName

namespace Location

/-- The names that a path is made of, an empty one for each doubled or final slash. -/
def namesOf (path : Text) : List FileName := (pieces '/' path).map Text.utf8

def pathBytes (location : Location) : List UInt8 :=
  if location.isEmpty then [slashByte] else location.flatMap (slashByte :: ·)

/-- The path of a location as a text, if all its names are texts. -/
def path? (location : Location) : Option Text := Text.ofUtf8? location.pathBytes

end Location

/-- A part of a path, as paths are compared. -/
inductive PathPart where
  | root
  | here
  | above
  | name (name : FileName)
  deriving DecidableEq, Repr

namespace PathPart

def rank : PathPart → Nat
  | .root => 0
  | .here => 1
  | .above => 2
  | .name _ => 3

/-- The order of parts: by kind, and names by their bytes. -/
def le : PathPart → PathPart → Bool
  | .name a, .name b => FileName.le a b
  | a, b => a.rank ≤ b.rank

/-- Lexicographic order of sequences of parts. -/
def leEach : List PathPart → List PathPart → Bool
  | [], _ => true
  | _ :: _, [] => false
  | a :: s, b :: t => if a = b then leEach s t else le a b

/-- The part that a piece between slashes is, if it counts anywhere in a path. -/
def ofPiece? (piece : Text) : Option PathPart :=
  if piece = [] || piece = ['.'] then none
  else if piece = ['.', '.'] then some .above
  else some (.name (Text.utf8 piece))

/-- What a path begins with, other than a name: the root or the working directory. -/
def leading (path : Text) : List PathPart :=
  if path.head? = some '/' then [.root]
  else if (pieces '/' path).head? = some ['.'] then [.here]
  else []

def ofPath (path : Text) : List PathPart := leading path ++ (pieces '/' path).filterMap ofPiece?

def lePath (path other : Text) : Bool := leEach (ofPath path) (ofPath other)

end PathPart

end FillInStory
