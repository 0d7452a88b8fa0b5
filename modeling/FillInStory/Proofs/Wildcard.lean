import FillInStory.Files.Wildcard
import Mathlib.Tactic.SplitIfs

/-! # Escaped names as patterns

An escaped text is a pattern that stands for that text alone: its tokens are those of its characters,
whether the pattern counts as literal or not. Since escaping leaves slashes alone, an escaped path has
the escaped names of the path as its components.
-/

namespace FillInStory

namespace Wildcard

/-- The token of an escaped character. -/
def ofChar (c : Char) : Wildcard := if isSpecial c then .bracketed c else .char c

theorem escape_cons (c : Char) (rest : Text) :
    escape (c :: rest) = (if isSpecial c then ['[', c, ']'] else [c]) ++ escape rest := rfl

/-- Escaping keeps the pieces of a path apart. -/
theorem pieces_escape (t : Text) : pieces '/' (escape t) = (pieces '/' t).map escape := by
  induction t with
  | nil => rfl
  | cons c rest ih =>
    cases pieced : pieces '/' rest with
    | nil => exact absurd pieced (pieces_ne_nil _ _)
    | cons first others =>
      rw [pieced] at ih
      by_cases slash : c = '/'
      · subst slash
        simp only [escape_cons, pieces, pieced]
        simpa [isSpecial, pieces, escape] using ih
      · by_cases special : isSpecial c <;> simp [escape_cons, pieces, special, slash, ih, pieced]

/-- Reading an escaped text gives a token for each character. -/
theorem parse_escape (t : Text) : parse (escape t) = t.map ofChar := by
  induction t with
  | nil => rfl
  | cons c rest ih =>
    by_cases special : isSpecial c
    · simp [escape_cons, special, parse, ofChar, ih]
    · simp only [escape_cons, special, Bool.false_eq_true, ↓reduceIte, List.cons_append, List.nil_append,
        List.map_cons, ofChar]
      simp only [isSpecial, Bool.or_eq_true, beq_iff_eq, not_or] at special
      rw [parse.eq_5, ih] <;> simp_all

theorem literal?_of_plain {t : Text} (plain : t.any isSpecial = false) : literal? (t.map ofChar) = some t := by
  induction t with
  | nil => rfl
  | cons c rest ih =>
    rw [List.any_cons, Bool.or_eq_false_iff] at plain
    simp [ofChar, plain.1, literal?, ih plain.2]

theorem literal?_of_special {t : Text} (special : t.any isSpecial = true) : literal? (t.map ofChar) = none := by
  induction t with
  | nil => cases special
  | cons c rest ih =>
    cases kind : isSpecial c with
    | true => simp [ofChar, kind, literal?]
    | false =>
      rw [List.any_cons, kind, Bool.false_or] at special
      simp [ofChar, kind, literal?, ih special]

theorem accepts_map_ofChar (t name : Text) : accepts (t.map ofChar) name ↔ name = t := by
  induction t generalizing name with
  | nil => cases name <;> simp [accepts]
  | cons c rest ih =>
    have one : accepts ((c :: rest).map ofChar) name ↔
        name.head? = some c ∧ accepts (rest.map ofChar) name.tail := by
      by_cases special : isSpecial c <;> simp [ofChar, special, accepts]
    rw [one, ih]
    cases name <;> simp

theorem accepts_anyText (name : Text) : accepts [.anyText] name = true := by
  unfold accepts
  induction name with
  | nil => rfl
  | cons c rest ih => simp [someEnding, ih]

/-- Reading the pattern of an escaped path, a slash and an asterisk. -/
theorem parse_pieces_escape (t : Text) :
    (pieces '/' (escape t ++ "/*")).map parse =
      (pieces '/' t).map (parse ∘ escape) ++ [[.anyText]] := by
  have ends : ("/*" : Text) = '/' :: ['*'] := rfl
  rw [ends, pieces_append_cons, pieces_escape, List.map_append, List.map_map]
  rfl

/-- A path that begins with an escaped one begins with a slash only if that one does. -/
theorem head?_escape_append {t : Text} (more : Text) (begun : t ≠ []) (relative : t.head? ≠ some '/') :
    (escape t ++ more).head? ≠ some '/' := by
  cases t with
  | nil => exact absurd rfl begun
  | cons c rest =>
    rw [escape_cons]
    split_ifs
    · simp
    · simpa using relative

end Wildcard

end FillInStory
