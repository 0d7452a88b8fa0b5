import FillInStory.Text.Basic

/-! # Log records

What the program reports while it works is a list of records beside its results. A computation that
reports is a value together with the records in the order in which they were written.
-/

namespace FillInStory

/-- How severe a record is. -/
inductive Level where
  | error
  | warn
  | info
  | debug
  | trace
  deriving DecidableEq, Repr

namespace Level

/-- The rank of a level; the most severe has the lowest. -/
def rank : Level → Nat
  | .error => 1
  | .warn => 2
  | .info => 3
  | .debug => 4
  | .trace => 5

def label : Level → Text
  | .error => "ERROR"
  | .warn => "WARN"
  | .info => "INFO"
  | .debug => "DEBUG"
  | .trace => "TRACE"

end Level

/-- The parts of the program that write records. -/
inductive Origin where
  | startUp
  | settings
  | collection
  | requests
  | form
  deriving DecidableEq, Repr

namespace Origin

/-- The name of a part in a log, by which the log's settings select it. -/
def target : Origin → Text
  | .startUp => "story_server"
  | .settings => "story_server::utils::config"
  | .collection => "story_server::stories::collection"
  | .requests => "story_server::utils::story_utils"
  | .form => "story_server::v1::story::story_form"

end Origin

structure Record where
  level : Level
  origin : Origin
  message : Text
  deriving DecidableEq, Repr

/-- What the console shows of a record that is written at a time. -/
abbrev Console := (time : Text) → Record → Text

/-- A value with the records written on the way to it. -/
structure Logged (α : Type) where
  value : α
  records : List Record
  deriving DecidableEq, Repr

namespace Logged

variable {α β : Type}

instance : Monad Logged where
  pure value := ⟨value, []⟩
  bind first next := ⟨(next first.value).value, first.records ++ (next first.value).records⟩

def add (record : Record) : Logged Unit := ⟨(), [record]⟩

def write (level : Level) (origin : Origin) (message : Text) : Logged Unit := add ⟨level, origin, message⟩

@[simp] theorem value_pure (a : α) : (pure a : Logged α).value = a := rfl

@[simp] theorem records_pure (a : α) : (pure a : Logged α).records = [] := rfl

@[simp] theorem value_bind (first : Logged α) (next : α → Logged β) :
    (first >>= next).value = (next first.value).value := rfl

@[simp] theorem records_bind (first : Logged α) (next : α → Logged β) :
    (first >>= next).records = first.records ++ (next first.value).records := rfl

end Logged

end FillInStory
