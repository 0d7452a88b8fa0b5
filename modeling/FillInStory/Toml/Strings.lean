import FillInStory.Json.Parser

/-! # Strings in TOML

A string stands between double quotes, with escapes, or between apostrophes, where every character stands
for itself; tripled delimiters let it run over lines. A reader takes the text after the opening delimiter
and returns the string with the text after the closing one.
-/

namespace FillInStory.Toml

/-- Whether a character may stand in a string or a comment: a tab, or no control character. -/
def isOrdinary (c : Char) : Bool := c = '\t' || (0x20 ≤ c.toNat && c.toNat != 0x7F)

def skipSpace (t : Text) : Text := t.dropWhile fun c => c = ' ' || c = '\t'

def afterLineEnd? : Text → Option Text
  | '\n' :: rest => some rest
  | '\r' :: '\n' :: rest => some rest
  | _ => none

/-! ## Escapes -/

/-- The character that a letter after a backslash stands for. -/
def escaped? (c : Char) : Option Char :=
  match c with
  | '"' => some '"'
  | '\\' => some '\\'
  | 'b' => some '\x08'
  | 'f' => some '\x0C'
  | 'n' => some '\n'
  | 'r' => some '\r'
  | 't' => some '\t'
  | _ => none

/-- The character with a number, if it is no surrogate and not too large. -/
def scalar? (n : Nat) : Option Char := if n.isValidChar then some (Char.ofNat n) else none

/-- Replaces the escapes in the text between quotes. A backslash at the end of a line drops that line end
and all blanks and line ends after it; `continuing` says that this has begun, and whether a line end has
come. Line ends may stand only where the string runs over lines, and are read as line feeds. -/
def unescape (multiline : Bool) : (continuing : Option Bool) → Text → Option Text
  | some ended, ' ' :: rest => unescape multiline (some ended) rest
  | some ended, '\t' :: rest => unescape multiline (some ended) rest
  | some _, '\n' :: rest => unescape multiline (some true) rest
  | some _, '\r' :: '\n' :: rest => unescape multiline (some true) rest
  | some false, _ => none
  | _, [] => some []
  | _, '\\' :: 'u' :: a :: b :: c :: d :: rest => do
    let scalar ← scalar? (← Json.hexFour? a b c d)
    (unescape multiline none rest).map (scalar :: ·)
  | _, '\\' :: 'U' :: a :: b :: c :: d :: e :: f :: g :: h :: rest => do
    let scalar ← scalar? ((← Json.hexFour? a b c d) * 0x10000 + (← Json.hexFour? e f g h))
    (unescape multiline none rest).map (scalar :: ·)
  | _, '\\' :: c :: rest =>
    if multiline && (c = ' ' || c = '\t') then unescape multiline (some false) rest
    else if multiline && (c = '\n' || (c = '\r' && rest.head? = some '\n')) then
      unescape multiline (some (c = '\n')) rest
    else do
      let e ← escaped? c
      (unescape multiline none rest).map (e :: ·)
  | _, '\r' :: '\n' :: rest => if multiline then (unescape multiline none rest).map ('\n' :: ·) else none
  | _, c :: rest =>
    if isOrdinary c || (multiline && c = '\n') then (unescape multiline none rest).map (c :: ·) else none

/-! ## Finding the end of a string -/

/-- The text up to a quote that no backslash escapes, and the text after that quote. -/
def untilQuote : Text → Option (Text × Text)
  | [] => none
  | '"' :: rest => some ([], rest)
  | '\\' :: c :: rest => (untilQuote rest).map fun (inside, after) => ('\\' :: c :: inside, after)
  | c :: rest => (untilQuote rest).map fun (inside, after) => (c :: inside, after)

/-- The text up to three delimiters, and the text after them. If more than three stand there, up to two of
them belong to the string. A backslash keeps the next character from delimiting where `escapes` holds. -/
def untilTriple (delimiter : Char) (escapes : Bool) : Text → Option (Text × Text)
  | c :: d :: e :: rest =>
    if c = delimiter && d = delimiter && e = delimiter then
      let extra := (rest.take 2).takeWhile (· = delimiter)
      some (extra, rest.drop extra.length)
    else if escapes && c = '\\' then
      (untilTriple delimiter escapes (e :: rest)).map fun (inside, after) => (c :: d :: inside, after)
    else
      (untilTriple delimiter escapes (d :: e :: rest)).map fun (inside, after) => (c :: inside, after)
  | _ => none

/-! ## Strings -/

/-- A string on one line after its opening quote. -/
def basicString (t : Text) : Option (Text × Text) := do
  let (inside, rest) ← untilQuote t
  some (← unescape false none inside, rest)

/-- A string on one line after its opening apostrophe. -/
def literalString (t : Text) : Option (Text × Text) :=
  match t.dropWhile (· != '\'') with
  | [] => none
  | _ :: rest =>
    let inside := t.takeWhile (· != '\'')
    if inside.all isOrdinary then some (inside, rest) else none

/-- Reads carriage returns only before line feeds, and drops them. -/
def plainLines : Text → Option Text
  | [] => some []
  | '\r' :: '\n' :: rest => (plainLines rest).map ('\n' :: ·)
  | c :: rest => if isOrdinary c || c = '\n' then (plainLines rest).map (c :: ·) else none

/-- A string that begins with its opening delimiter; a line end right after three of them is dropped. -/
def readString : Text → Option (Text × Text)
  | '"' :: '"' :: '"' :: rest => do
    let (inside, rest) ← untilTriple '"' true ((afterLineEnd? rest).getD rest)
    some (← unescape true none inside, rest)
  | '"' :: rest => basicString rest
  | '\'' :: '\'' :: '\'' :: rest => do
    let (inside, rest) ← untilTriple '\'' false ((afterLineEnd? rest).getD rest)
    some (← plainLines inside, rest)
  | '\'' :: rest => literalString rest
  | _ => none

end FillInStory.Toml
