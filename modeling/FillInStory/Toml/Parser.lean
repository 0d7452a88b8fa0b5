import FillInStory.Toml.Document

/-! # Reading TOML

A document is a sequence of lines: key and value, header, comment, or nothing. Arrays may run over lines.
Values and keys are nested up to a limit.
-/

namespace FillInStory.Toml

/-- Arrays and inline tables may be nested less than this many times, and a key has fewer parts. -/
def nestingLimit : Nat := 80

/-! ## Blanks and comments -/

/-- The text after blanks, an optional comment and the end of the line or of the text. -/
def afterLine (t : Text) : Option Text :=
  let rest :=
    match skipSpace t with
    | '#' :: comment => comment.dropWhile isOrdinary
    | rest => rest
  if rest.isEmpty then some [] else afterLineEnd? rest

/-- Drops blanks, line ends and comments; `comment` tells whether the text begins inside a comment. -/
def skipLines : (comment : Bool) → Text → Option Text
  | _, [] => some []
  | _, '\n' :: rest => skipLines false rest
  | _, '\r' :: '\n' :: rest => skipLines false rest
  | true, c :: rest => if isOrdinary c then skipLines true rest else none
  | false, c :: rest =>
    if c = ' ' || c = '\t' then skipLines false rest
    else if c = '#' then skipLines true rest
    else some (c :: rest)

/-! ## Keys -/

def isBareChar (c : Char) : Bool := c.isAlphanum || c = '_' || c = '-'

def simpleKey : Text → Option (Text × Text)
  | '"' :: rest => basicString rest
  | '\'' :: rest => literalString rest
  | t => if t.head?.any isBareChar then some (t.takeWhile isBareChar, t.dropWhile isBareChar) else none

def keyParts : (fuel : Nat) → Text → Option (List Text × Text)
  | 0, _ => none
  | fuel + 1, t => do
    let (part, rest) ← simpleKey (skipSpace t)
    match skipSpace rest with
    | '.' :: rest => (keyParts fuel rest).map fun (parts, rest) => (part :: parts, rest)
    | rest => some ([part], rest)

/-- A key, which has fewer parts than the limit. -/
def readKey (t : Text) : Option (List Text × Text) :=
  (keyParts (t.length + 1) t).filter fun (parts, _) => parts.length < nestingLimit

/-! ## Values -/

/-- The rest of an array after its opening bracket or a comma. -/
def arrayRest (item : Text → Option (Value × Text)) : (fuel : Nat) → Text → Option Text
  | 0, _ => none
  | fuel + 1, t => do
    match ← skipLines false t with
    | ']' :: rest => some rest
    | t =>
      let (_, rest) ← item t
      match ← skipLines false rest with
      | ',' :: rest => arrayRest item fuel rest
      | ']' :: rest => some rest
      | _ => none

/-- The rest of an inline table before one of its keys. What it defines so far tells which keys it may
have. -/
def inlineRest (item : Text → Option (Value × Text)) : (fuel : Nat) → Document → Text → Option Text
  | 0, _, _ => none
  | fuel + 1, defined, t => do
    let (keys, rest) ← readKey t
    let rest ← afterChar '=' rest
    let (v, rest) ← item (skipSpace rest)
    let defined ← defined.define [] keys v
    match skipSpace rest with
    | ',' :: rest => inlineRest item fuel defined rest
    | '}' :: rest => some rest
    | _ => none

/-- A value, in which arrays and inline tables may be nested less deep than the limit. -/
def readValue : (limit : Nat) → Text → Option (Value × Text)
  | 0, _ => none
  | limit + 1, t =>
    match t with
    | 't' :: 'r' :: 'u' :: 'e' :: rest => some (.boolean true, rest)
    | 'f' :: 'a' :: 'l' :: 's' :: 'e' :: rest => some (.boolean false, rest)
    | '[' :: rest =>
      if limit = 0 then none
      else (arrayRest (readValue limit) (rest.length + 1) rest).map fun rest => (.array, rest)
    | '{' :: rest =>
      if limit = 0 then none
      else
        match skipSpace rest with
        | '}' :: rest => some (.inlineTable, rest)
        | inside =>
          (inlineRest (readValue limit) (rest.length + 1) Dictionary.empty inside).map fun rest =>
            (.inlineTable, rest)
    | '"' :: rest => (readString ('"' :: rest)).map fun (s, rest) => (.string s, rest)
    | '\'' :: rest => (readString ('\'' :: rest)).map fun (s, rest) => (.string s, rest)
    | _ =>
      match afterDateTime t with
      | some rest => some (.dateTime, rest)
      | none => readNumber t

/-! ## Lines -/

def keyLine (document : Document) (here : List Step) (t : Text) : Option (Document × Text) := do
  let (keys, rest) ← readKey t
  let rest ← afterChar '=' rest
  let (v, rest) ← readValue nestingLimit (skipSpace rest)
  let rest ← afterLine rest
  some (← document.define here keys v, rest)

/-- A header after its first bracket, with the path of the table that it begins. -/
def headerLine (document : Document) (t : Text) : Option ((Document × List Step) × Text) :=
  match t with
  | '[' :: rest => do
    let (keys, rest) ← readKey rest
    let rest ← afterLine (← Text.after? "]]" rest)
    some (← document.beginElement keys, rest)
  | rest => do
    let (keys, rest) ← readKey rest
    let rest ← afterLine (← afterChar ']' rest)
    some (← document.beginTable keys, rest)

/-- Reads lines into a document; keys belong to the table `here`. -/
def readLines : (fuel : Nat) → Document → (here : List Step) → Text → Option Document
  | 0, _, _, _ => none
  | fuel + 1, document, here, t =>
    match skipSpace t with
    | [] => some document
    | '[' :: rest => do
      let ((document, here), rest) ← headerLine document rest
      readLines fuel document here rest
    | c :: rest =>
      if c = '#' || c = '\n' || c = '\r' then do
        readLines fuel document here (← afterLine (c :: rest))
      else do
        let (document, rest) ← keyLine document here (c :: rest)
        readLines fuel document here rest

/-- The document that a text is, which may begin with a byte order mark. -/
def parse? (t : Text) : Option Document :=
  let t := if t.head? = some '\uFEFF' then t.tail else t
  readLines (t.length + 1) Dictionary.empty [] t

end FillInStory.Toml
