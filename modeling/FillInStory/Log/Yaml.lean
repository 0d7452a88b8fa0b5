import FillInStory.Json.Parser

/-! # Reading YAML

The part of YAML in which log settings are written: mappings and sequences in block style by indentation,
sequences of scalars in brackets, plain and quoted scalars, and comments. All scalars are texts. A text that
uses more of the language, or names a key twice, is refused.
-/

namespace FillInStory

inductive Yaml where
  | scalar (t : Text)
  | sequence (items : List Yaml)
  | mapping (members : List (Text × Yaml))
  deriving Repr

namespace Yaml

/-- A line that says something: the number of spaces before it, and what it says. -/
structure Line where
  indent : Nat
  content : Text
  deriving DecidableEq, Repr

/-- Drops a comment, which a number sign begins at the start or after a space, outside quotes. -/
def dropComment : (quote : Option Char) → (afterSpace : Bool) → Text → Text
  | _, _, [] => []
  | some q, _, c :: rest => c :: dropComment (if c = q then none else some q) false rest
  | none, afterSpace, c :: rest =>
    if c = '#' && afterSpace then []
    else c :: dropComment (if c = '"' || c = '\'' then some c else none) (c = ' ') rest

def trimEnd (t : Text) : Text := Text.dropTrailing ' ' (Text.dropTrailing '\r' t)

def linesOf (t : Text) : List Line :=
  (pieces '\n' t).filterMap fun raw =>
    let line := trimEnd (dropComment none true (trimEnd raw))
    let content := line.dropWhile (· = ' ')
    if content.isEmpty || line = "---".toList then none else some ⟨line.length - content.length, content⟩

/-- Reads a scalar up to one of the given characters. -/
def scalarUpTo (ends : List Char) (t : Text) : Option (Text × Text) :=
  match t with
  | '"' :: rest => Json.readString rest
  | '\'' :: rest => singleQuoted rest
  | _ => some (trimEnd (t.takeWhile fun c => !ends.contains c), t.dropWhile fun c => !ends.contains c)
where
  /-- The text up to a single quote that is not doubled. -/
  singleQuoted : Text → Option (Text × Text)
    | [] => none
    | '\'' :: '\'' :: rest => (singleQuoted rest).map fun (inside, rest) => ('\'' :: inside, rest)
    | '\'' :: rest => some ([], rest)
    | c :: rest => (singleQuoted rest).map fun (inside, rest) => (c :: inside, rest)

/-- The items of a sequence in brackets after the opening one. -/
def flowItems : (fuel : Nat) → Text → Option (List Yaml)
  | 0, _ => none
  | fuel + 1, t => do
    let t := t.dropWhile (· = ' ')
    if t = [']'] then some []
    else
      let (item, rest) ← scalarUpTo [',', ']'] t
      match rest.dropWhile (· = ' ') with
      | ',' :: rest => (flowItems fuel rest).map (.scalar item :: ·)
      | [']'] => some [.scalar item]
      | _ => none

def inlineValue (t : Text) : Option Yaml :=
  match t with
  | '[' :: rest => (flowItems (rest.length + 1) rest).map .sequence
  | '{' :: rest => if rest.dropWhile (· = ' ') = ['}'] then some (.mapping []) else none
  | _ => do
    let (value, rest) ← scalarUpTo [] t
    if rest.isEmpty then some (.scalar value) else none

/-- Splits a line into a key and what follows the colon, if it has one. -/
def splitKey (t : Text) : Option (Text × Text) := do
  let (key, rest) ←
    match t with
    | '"' :: _ | '\'' :: _ => scalarUpTo [] t
    | _ => some (plainKey t)
  match rest with
  | [':'] => some (key, [])
  | ':' :: ' ' :: rest => some (key, rest.dropWhile (· = ' '))
  | _ => none
where
  /-- The text up to a colon at the end or before a space. -/
  plainKey : Text → Text × Text
    | [] => ([], [])
    | [':'] => ([], [':'])
    | ':' :: ' ' :: rest => ([], ':' :: ' ' :: rest)
    | c :: rest => (c :: (plainKey rest).1, (plainKey rest).2)

/-- What an item of a sequence says after its hyphen, if the line is one. -/
def itemContent? : Text → Option Text
  | ['-'] => some []
  | '-' :: ' ' :: rest => some (rest.dropWhile (· = ' '))
  | _ => none

/-- Reads a value from the lines that are indented at least as far as the first. -/
def block : (fuel : Nat) → List Line → Option (Yaml × List Line)
  | 0, _ => none
  | _, [] => some (.scalar [], [])
  | fuel + 1, first :: rest =>
    if (itemContent? first.content).isSome then
      (items fuel first.indent (first :: rest)).map fun (found, rest) => (.sequence found, rest)
    else (members fuel first.indent (first :: rest)).map fun (found, rest) => (.mapping found, rest)
where
  /-- Reads the items of a sequence. -/
  items : (fuel : Nat) → (indent : Nat) → List Line → Option (List Yaml × List Line)
    | 0, _, _ => none
    | _, _, [] => some ([], [])
    | fuel + 1, indent, line :: rest =>
      if line.indent < indent then some ([], line :: rest)
      else if line.indent ≠ indent then none
      else
        match itemContent? line.content with
        | none => some ([], line :: rest)
        | some content => do
          let (item, rest) ←
            if content.isEmpty then
              match rest with
              | next :: _ => if indent < next.indent then block fuel rest else some (.scalar [], rest)
              | [] => some (.scalar [], [])
            else if (splitKey content).isSome then
              block fuel (⟨indent + (line.content.length - content.length), content⟩ :: rest)
            else (inlineValue content).map (·, rest)
          let (others, rest) ← items fuel indent rest
          some (item :: others, rest)
  /-- Reads the members of a mapping. -/
  members : (fuel : Nat) → (indent : Nat) → List Line → Option (List (Text × Yaml) × List Line)
    | 0, _, _ => none
    | _, _, [] => some ([], [])
    | fuel + 1, indent, line :: rest =>
      if line.indent < indent then some ([], line :: rest)
      else if line.indent ≠ indent then none
      else do
        let (key, content) ← splitKey line.content
        let (value, rest) ←
          if content.isEmpty then
            match rest with
            | next :: _ =>
              if indent < next.indent || (indent = next.indent && (itemContent? next.content).isSome) then
                block fuel rest
              else some (.scalar [], rest)
            | [] => some (.scalar [], [])
          else (inlineValue content).map (·, rest)
        let (others, rest) ← members fuel indent rest
        if others.any fun m => m.1 = key then none else some ((key, value) :: others, rest)

def parse? (t : Text) : Option Yaml :=
  let found := linesOf t
  match block (2 * found.length + 2) found with
  | some (value, []) => some value
  | _ => none

def member? (members : List (Text × Yaml)) (name : Text) : Option Yaml :=
  (members.find? fun m => m.1 = name).map Prod.snd

end Yaml

end FillInStory
