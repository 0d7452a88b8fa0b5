import FillInStory.Json.Value
import FillInStory.Web.Description
import FillInStory.Web.Target

/-! # Requests and replies -/

namespace FillInStory

structure Request where
  method : Text
  target : Target
  headers : List (Text × Text)
  body : List UInt8
  deriving Repr

namespace Request

/-- The headers with their names in small letters, those of one name together where it first occurs. -/
def groupedHeaders (r : Request) : List (Text × Text) :=
  let named := r.headers.map fun h => (Text.lowerCase h.1, h.2)
  (named.map Prod.fst).eraseDups.flatMap fun name => named.filter fun h => h.1 = name

/-- The value of the first header with a name, if it has visible characters and tabs only. -/
def header? (r : Request) (name : Text) : Option Text :=
  ((r.headers.find? fun h => Text.lowerCase h.1 = name).map Prod.snd).filter fun value =>
    value.all fun c => (32 ≤ c.toNat && c.toNat < 127) || c = '\t'

end Request

inductive Body where
  | nothing
  | text (t : Text)
  | json (members : List (Text × Json))
  | description (d : Description)
  deriving Repr

structure Reply where
  status : Nat
  contentType : Option Text
  body : Body
  deriving Repr

/-- Why a request never reaches the part of the server that it is meant for. -/
inductive Refusal where
  | notFound
  | methodNotAllowed
  /-- A form is posted without saying what it is. -/
  | contentTypeRequired
  /-- What is posted is no form. -/
  | invalidContentType
  /-- A call is posted without saying what it is. -/
  | expectContentType
  /-- What is posted is no JSON. -/
  | contentTypeNotSupported
  /-- The JSON that is posted is no call. -/
  | parseRequestPayload
  deriving DecidableEq, Repr

namespace Refusal

def status : Refusal → Nat
  | .notFound => 404
  | .methodNotAllowed => 405
  | .contentTypeRequired | .invalidContentType | .expectContentType | .contentTypeNotSupported => 415
  | .parseRequestPayload => 400

end Refusal

end FillInStory
