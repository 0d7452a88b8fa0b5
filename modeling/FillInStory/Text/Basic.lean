/-! # Texts

A text is a list of Unicode scalar values. Everything the library reads, computes and answers is a
text; `String` occurs only as a literal, which a coercion turns into the list of its characters, and
at the outer edge of the program. Lists make the recursion on a text plain, and the equations below
are the only facts that later modules need about pieces and decimals.
-/

namespace FillInStory

/-- A text is a finite sequence of Unicode scalar values. -/
abbrev Text := List Char

instance : Coe String Text := ⟨String.toList⟩

/-- The pieces of a list between the occurrences of a separator. There is always one more piece than
there are separators. -/
def pieces {α : Type} [DecidableEq α] (separator : α) : List α → List (List α)
  | [] => [[]]
  | c :: rest =>
    if c = separator then [] :: pieces separator rest
    else
      match pieces separator rest with
      | [] => [[c]]
      | first :: others => (c :: first) :: others

theorem pieces_ne_nil {α : Type} [DecidableEq α] (separator : α) (t : List α) : pieces separator t ≠ [] := by
  cases t with
  | nil => simp [pieces]
  | cons c rest =>
    simp only [pieces]
    split
    · simp
    · split <;> simp

/-- Joining the pieces with the separator restores the text. -/
theorem intercalate_pieces {α : Type} [DecidableEq α] (separator : α) (t : List α) :
    List.intercalate [separator] (pieces separator t) = t := by
  induction t with
  | nil => simp [pieces, List.intercalate]
  | cons c rest ih =>
    simp only [pieces]
    split
    · next same =>
      subst same
      cases pieced : pieces c rest with
      | nil => exact absurd pieced (pieces_ne_nil c rest)
      | cons first others => simp_all [List.intercalate, List.intersperse]
    · cases pieced : pieces separator rest with
      | nil => exact absurd pieced (pieces_ne_nil separator rest)
      | cons first others =>
        cases others <;> simp_all [List.intercalate, List.intersperse]

theorem pieces_of_notMem {α : Type} [DecidableEq α] {separator : α} {t : List α} (absent : separator ∉ t) :
    pieces separator t = [t] := by
  induction t with
  | nil => rfl
  | cons c rest ih =>
    simp only [List.mem_cons, not_or] at absent
    simp [pieces, Ne.symm absent.1, ih absent.2]

/-- A separator ends the pieces before it and begins those after it. -/
theorem pieces_append_cons {α : Type} [DecidableEq α] (separator : α) (s t : List α) :
    pieces separator (s ++ separator :: t) = pieces separator s ++ pieces separator t := by
  induction s with
  | nil => simp [pieces]
  | cons c rest ih =>
    simp only [List.cons_append, pieces, ih]
    split
    · rfl
    · cases pieced : pieces separator rest with
      | nil => exact absurd pieced (pieces_ne_nil separator rest)
      | cons first others => rfl

/-- A separator before each of some texts without separators keeps them apart. -/
theorem pieces_append_flatMap {α β : Type} [DecidableEq α] {separator : α} (f : β → List α) {s : List α}
    {items : List β} (absent : separator ∉ s) (plain : ∀ b ∈ items, separator ∉ f b) :
    pieces separator (s ++ items.flatMap fun b => separator :: f b) = s :: items.map f := by
  induction items generalizing s with
  | nil => simp [pieces_of_notMem absent]
  | cons b rest ih =>
    have others := ih (plain b (List.mem_cons_self ..)) fun x member => plain x (List.mem_cons_of_mem _ member)
    rw [List.flatMap_cons, List.cons_append, pieces_append_cons, pieces_of_notMem absent, others]
    rfl

theorem notMem_of_mem_pieces {α : Type} [DecidableEq α] {separator : α} {t piece : List α}
    (member : piece ∈ pieces separator t) : separator ∉ piece := by
  induction t generalizing piece with
  | nil => simp_all [pieces]
  | cons c rest ih =>
    simp only [pieces] at member
    split at member
    · rcases List.mem_cons.mp member with rfl | member
      · simp
      · exact ih member
    · next other =>
      split at member
      · simp_all [Ne.symm other]
      · next first others pieced =>
        rw [pieced] at ih
        rcases List.mem_cons.mp member with rfl | member
        · simpa [Ne.symm other] using ih List.mem_cons_self
        · exact ih (List.mem_cons_of_mem _ member)

/-- A text is its first piece and then each further piece behind a separator. -/
theorem append_flatMap_of_pieces {α : Type} [DecidableEq α] {separator : α} {t first : List α}
    {others : List (List α)} (pieced : pieces separator t = first :: others) :
    first ++ others.flatMap (separator :: ·) = t := by
  have joined := intercalate_pieces separator t
  rw [pieced] at joined
  subst joined
  clear pieced
  induction others generalizing first with
  | nil => simp [List.intercalate]
  | cons second others ih => simpa [List.intercalate, List.intersperse] using ih

namespace Text

/-- The decimal digits of a number, without leading zeros. -/
def decimal (n : Nat) : Text := Nat.toDigits 10 n

/-- The decimal digits of a number, filled up with zeros in front to at least `width` digits. -/
def decimalPadded (width n : Nat) : Text :=
  List.replicate (width - (decimal n).length) '0' ++ decimal n

def hexadecimal (n : Nat) : Text := Nat.toDigits 16 n

def byteSize : Text → Nat
  | [] => 0
  | c :: rest => c.utf8Size + byteSize rest

/-- The text before the first occurrence of a separator and, if there is one, the text after it. -/
def cut (separator : Char) : Text → Text × Option Text
  | [] => ([], none)
  | c :: rest =>
    if c = separator then ([], some rest)
    else
      let (before, after) := cut separator rest
      (c :: before, after)

/-- The text after `start`, if it begins with that. -/
def after? : (start : Text) → Text → Option Text
  | [], t => some t
  | _ :: _, [] => none
  | s :: start, c :: rest => if s = c then after? start rest else none

def dropTrailing (c : Char) (t : Text) : Text := (t.reverse.dropWhile (· = c)).reverse

/-- ASCII capital letters become small, all else stays. -/
def lowerCase (t : Text) : Text := t.map Char.toLower

@[simp] theorem byteSize_nil : byteSize [] = 0 := rfl

@[simp] theorem byteSize_cons (c : Char) (t : Text) : byteSize (c :: t) = c.utf8Size + byteSize t := rfl

@[simp] theorem byteSize_append (s t : Text) : byteSize (s ++ t) = byteSize s + byteSize t := by
  induction s with
  | nil => simp
  | cons c s ih => simp [ih, Nat.add_assoc]

theorem byteSize_le_of_sublist {s t : Text} (part : s.Sublist t) : byteSize s ≤ byteSize t := by
  induction part with
  | slnil => exact Nat.le_refl _
  | cons c _ ih => exact Nat.le_trans ih (Nat.le_add_left ..)
  | cons_cons c _ ih => exact Nat.add_le_add_left ih _

end Text

end FillInStory
