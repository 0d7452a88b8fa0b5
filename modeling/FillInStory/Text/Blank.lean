import FillInStory.Text.Basic

/-! # Blank characters

A character is blank when Unicode gives it the property `White_Space`. Field names must not be blank
throughout, and numbers are read without the blank characters around them.
-/

namespace FillInStory

/-- The characters with the Unicode property `White_Space`. -/
def isBlank (c : Char) : Bool :=
  (9 ≤ c.toNat && c.toNat ≤ 13) || c.toNat == 0x20 || c.toNat == 0x85 || c.toNat == 0xA0
    || c.toNat == 0x1680 || (0x2000 ≤ c.toNat && c.toNat ≤ 0x200A) || c.toNat == 0x2028
    || c.toNat == 0x2029 || c.toNat == 0x202F || c.toNat == 0x205F || c.toNat == 0x3000

namespace Text

/-- Whether every character is blank, as holds of the empty text. -/
def blank (t : Text) : Bool := t.all isBlank

def trim (t : Text) : Text := ((t.dropWhile isBlank).reverse.dropWhile isBlank).reverse

theorem blank_eq_false_iff (t : Text) : t.blank = false ↔ ∃ c ∈ t, ¬ isBlank c := by
  simp [blank]

end Text

end FillInStory
