import FillInStory.Dictionary
import FillInStory.Files.Name
import FillInStory.Text.Alphanumeric

/-! # Absolute paths

A path may name environment variables and begin with a tilde for the home directory. Its absolute path is
what remains when these are replaced and the names are taken from the root, or from the working directory
if the path is relative, leaving out empty names and single dots and going up at double dots. Where this
fails the path stays as it is written.
-/

namespace FillInStory

/-- What a path is read against: the environment, the working directory unless it has been
removed, and the home directory of the account. -/
structure Surroundings where
  environment : Dictionary Text Text
  workingDirectory : Option Location
  accountHome : Text

namespace Surroundings

/-- The home directory: that of the environment, unless it is unset or empty, else the account's. -/
def home (s : Surroundings) : Text :=
  match s.environment.get? "HOME" with
  | some (c :: rest) => c :: rest
  | _ => s.accountHome

/-- Where relative paths begin. If the working directory has been removed this is a place whose name no
entry can have. -/
def here (s : Surroundings) : Location := s.workingDirectory.getD [[]]

end Surroundings

namespace Expansion

def isVariableChar (c : Char) : Bool := isAlphanumeric c || c == '_'

/-- The text between braces as the name of a variable and, after `:-`, a default; a default without
a name in front belongs to the name. -/
def splitDefault : Text → Text × Option Text
  | [] => ([], none)
  | ':' :: '-' :: rest => ([], some rest)
  | c :: rest =>
    let (name, otherwise) := splitDefault rest
    (c :: name, otherwise)

/-- The value that the text between braces stands for, if its variable is set or has a default. -/
def bracedValue? (environment : Dictionary Text Text) (inside : Text) : Option Text :=
  match splitDefault inside with
  | (c :: name, some otherwise) => some ((environment.get? (c :: name)).getD otherwise)
  | _ => environment.get? inside

/-- What a dollar sign before `rest` stands for, unless it names an unset variable, and the text after
that. A brace that is not closed and a dollar sign before anything but a name stand for themselves, and
two dollar signs stand for one. -/
def reference (environment : Dictionary Text Text) : (rest : Text) → Option Text × Text
  | [] => (some "$", [])
  | c :: rest =>
    if c = '{' then
      match rest.dropWhile (· != '}') with
      | [] => (some "$\x7b", rest)
      | _ :: after => (bracedValue? environment (rest.takeWhile (· != '}')), after)
    else if isVariableChar c then
      (environment.get? (c :: rest.takeWhile isVariableChar), rest.dropWhile isVariableChar)
    else if c = '$' then (some "$", rest)
    else (some "$", c :: rest)

theorem length_reference_le (environment : Dictionary Text Text) (rest : Text) :
    (reference environment rest).2.length ≤ rest.length := by
  unfold reference
  split
  · simp
  · next c rest =>
    have short (p : Char → Bool) := (List.dropWhile_suffix p (l := rest)).length_le
    split
    · split
      · simp
      · next dropped =>
        have := short (· != '}')
        rw [dropped] at this
        simp only [List.length_cons] at this ⊢
        omega
    · split
      · have := short isVariableChar
        simp only [List.length_cons]
        omega
      · split <;> simp

/-- Replaces the variables of a path, unless one that has no default is unset. Values are not read
again. -/
def variablesIn (environment : Dictionary Text Text) : Text → Option Text
  | [] => some []
  | c :: rest =>
    if c = '$' then
      (reference environment rest).1.bind fun value =>
        (variablesIn environment (reference environment rest).2).map (value ++ ·)
    else (variablesIn environment rest).map (c :: ·)
termination_by t => t.length
decreasing_by
  · exact Nat.lt_succ_of_le (length_reference_le environment rest)
  · exact Nat.lt_succ_self _

/-- A path without dollar signs names no variable. -/
theorem variablesIn_of_notMem (environment : Dictionary Text Text) {path : Text} (absent : '$' ∉ path) :
    variablesIn environment path = some path := by
  induction path with
  | nil => rw [variablesIn]
  | cons c rest ih =>
    simp only [List.mem_cons, not_or] at absent
    rw [variablesIn, if_neg (Ne.symm absent.1), ih absent.2]
    rfl

/-- Replaces a tilde that stands alone or before a slash at the start of a path. -/
def tilde (home : Text) : Text → Text
  | ['~'] => home
  | '~' :: '/' :: rest => home ++ '/' :: rest
  | path => path

/-- The path with its variables and its tilde replaced, unless a variable is unset. A tilde that only a
variable brings to the start stays. -/
def expand? (s : Surroundings) (path : Text) : Option Text :=
  (variablesIn s.environment path).map fun expanded =>
    if path.head? != some '~' && expanded.head? == some '~' then expanded else tilde s.home expanded

end Expansion

namespace Location

/-- The location reached by one name: the same for an empty name or a dot, the one above for a double
dot. -/
def step (here : Location) (name : FileName) : Location :=
  if name = [] || name = FileName.self then here
  else if name = FileName.parent then here.dropLast
  else here ++ [name]

/-- The location reached from `start` along names, without looking at what stands there. -/
def go (start : Location) (names : List FileName) : Location := names.foldl step start

end Location

/-- The absolute path that a path stands for, or the path as it is if there is none. -/
def absolutePath (s : Surroundings) (path : Text) : Text :=
  match Expansion.expand? s path, s.workingDirectory with
  | some expanded, some here =>
    let start : Location := if expanded.head? = some '/' then [] else here
    ((start.go (Location.namesOf expanded)).path?).getD path
  | _, _ => path

end FillInStory
