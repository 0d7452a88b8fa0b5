/-! # Tables of characters

A set of characters is stored as the lengths of its stretches in code point order: first a stretch
outside the set, then one inside it, and so on by turns. Everything after the last stretch is outside.
-/

namespace FillInStory

/-- Lengths of stretches of code points, by turns outside and inside a set of characters. -/
structure CharacterTable where
  stretches : List Nat

namespace CharacterTable

/-- Whether the code point at distance `n` is in the set, `inside` telling it of the first stretch. -/
def memberFrom : (inside : Bool) → List Nat → (n : Nat) → Bool
  | _, [], _ => false
  | inside, length :: rest, n => if n < length then inside else memberFrom (!inside) rest (n - length)

def contains (table : CharacterTable) (c : Char) : Bool := memberFrom false table.stretches c.toNat

end CharacterTable

end FillInStory
