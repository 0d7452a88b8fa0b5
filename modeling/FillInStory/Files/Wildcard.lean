import FillInStory.Text.Basic

/-! # Wildcard patterns for names

A pattern is a sequence of tokens: a character that stands for itself, a question mark for any character,
an asterisk for any text, and a character between brackets, which stands for itself whatever it is.
Escaping a text puts its special characters between brackets, so that the pattern stands for that text
alone.
-/

namespace FillInStory

inductive Wildcard where
  | char (c : Char)
  | bracketed (c : Char)
  | anyChar
  | anyText
  deriving DecidableEq, Repr

namespace Wildcard

def isSpecial (c : Char) : Bool := c == '?' || c == '*' || c == '[' || c == ']'

/-- The pattern that stands for a text alone. -/
def escape (t : Text) : Text := t.flatMap fun c => if isSpecial c then ['[', c, ']'] else [c]

def parse : Text → List Wildcard
  | [] => []
  | '[' :: c :: ']' :: rest => .bracketed c :: parse rest
  | '?' :: rest => .anyChar :: parse rest
  | '*' :: rest => .anyText :: parse rest
  | c :: rest => .char c :: parse rest

/-- Whether some ending of a text, which may be the text itself or empty, satisfies a condition. -/
def someEnding (condition : Text → Bool) : Text → Bool
  | [] => condition []
  | c :: rest => condition (c :: rest) || someEnding condition rest

def accepts : List Wildcard → Text → Bool
  | [], name => name.isEmpty
  | .char c :: pattern, name => name.head? = some c && accepts pattern name.tail
  | .bracketed c :: pattern, name => name.head? = some c && accepts pattern name.tail
  | .anyChar :: pattern, name => !name.isEmpty && accepts pattern name.tail
  | .anyText :: pattern, name => someEnding (accepts pattern) name

/-- The name that a pattern consists of, when all its characters stand for themselves unbracketed. -/
def literal? : List Wildcard → Option Text
  | [] => some []
  | .char c :: pattern => (literal? pattern).map (c :: ·)
  | _ :: _ => none

end Wildcard

end FillInStory
