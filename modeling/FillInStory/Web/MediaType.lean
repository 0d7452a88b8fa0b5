import FillInStory.Text.Basic

/-! # Media types

A media type is a type and a subtype with an optional suffix after a plus sign, followed by parameters.
The reader accepts parameters of the form `name=value`, quoted or not, and keeps none of them.
-/

namespace FillInStory

/-- What a body is, in small letters. -/
structure MediaType where
  type : Text
  subtype : Text
  suffix : Option Text
  deriving DecidableEq, Repr

namespace MediaType

def isTokenChar (c : Char) : Bool := c.isAlphanum || "!#$%&'*+-.^_`|~".toList.contains c

def isQuotable (c : Char) : Bool := 31 < c.toNat && c.toNat != 127

/-- How far the reading of the parameters has come. -/
inductive ParameterState where
  | start
  | name
  | valueStart
  | value
  | quotedStart
  | quoted
  | afterQuoted
  deriving DecidableEq, Repr

/-- The state after one more character, if that may stand there. A quote just after the opening one does
not close the value. -/
def ParameterState.next? (state : ParameterState) (c : Char) : Option ParameterState :=
  match state with
  | .start => if c = ' ' then some .start else if isTokenChar c then some .name else none
  | .name => if c = '=' then some .valueStart else if isTokenChar c then some .name else none
  | .valueStart => if c = '"' then some .quotedStart else if isTokenChar c then some .value else none
  | .value => if c = ';' then some .start else if isTokenChar c then some .value else none
  | .quotedStart => if isQuotable c then some .quoted else none
  | .quoted => if c = '"' then some .afterQuoted else if isQuotable c then some .quoted else none
  | .afterQuoted => if c = ';' then some .start else if c = ' ' then some .afterQuoted else none

/-- Whether the parameters may end in a state. -/
def ParameterState.mayEnd : ParameterState → Bool
  | .start | .valueStart | .value | .afterQuoted => true
  | .name | .quotedStart | .quoted => false

def areParameters (t : Text) : Bool :=
  (t.foldlM ParameterState.next? ParameterState.start).any ParameterState.mayEnd

/-- Splits a subtype at its last plus sign, unless that comes first. -/
def splitSuffix (t : Text) : Text × Option Text :=
  match t.reverse.dropWhile (· != '+') with
  | _ :: c :: before => ((c :: before).reverse, some (t.reverse.takeWhile (· != '+')).reverse)
  | _ => (t, none)

def parse? (t : Text) : Option MediaType :=
  match t.dropWhile isTokenChar with
  | '/' :: rest =>
    let type := Text.lowerCase (t.takeWhile isTokenChar)
    let full := rest.takeWhile isTokenChar
    let (subtype, suffix) := splitSuffix (Text.lowerCase full)
    if type.isEmpty then none
    else
      match rest.dropWhile isTokenChar with
      | [] => some ⟨type, subtype, suffix⟩
      | c :: parameters =>
        if c = ';' && !full.isEmpty && areParameters parameters then some ⟨type, subtype, suffix⟩ else none
  | _ => none

/-- Whether a media type is an application type of the given name, or one that says so by its suffix. -/
def isApplication (m : MediaType) (name : Text) : Bool :=
  m.type = "application".toList && (m.subtype = name || m.suffix = some name)

end MediaType

end FillInStory
