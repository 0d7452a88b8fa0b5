import FillInStory.Dictionary
import FillInStory.Toml.Scalars

/-! # TOML documents

A document is a flat dictionary from paths to what is defined there. The path of a value begins with the
keys of the tables around it; an element of an array of tables has its number in the path. What may be
defined where hangs on how a table came about: by a header of its own, on the way to another header, or on
the way to a dotted key.
-/

namespace FillInStory.Toml

/-- One step from a table to something in it. -/
inductive Step where
  | key (name : Text)
  | element (number : Nat)
  deriving DecidableEq, Repr

/-- How a table came about. -/
inductive TableOrigin where
  /-- By a header of its own. -/
  | header
  /-- On the way to the header of another table. -/
  | passed
  /-- On the way to a dotted key. -/
  | dotted
  deriving DecidableEq, Repr

inductive Definition where
  | value (v : Value)
  | table (origin : TableOrigin)
  /-- An array of tables with so many elements, at least one. -/
  | tables (count : Nat)
  deriving DecidableEq, Repr

abbrev Document := Dictionary (List Step) Definition

namespace Document

/-- The value of a key outside all tables. -/
def root? (document : Document) (name : Text) : Option Definition := document.get? [.key name]

/-- Goes from a table along keys, making the tables that are not there. In an array of tables the last
element counts. A value is no table, and dotted keys do not enter tables with a header of their own. -/
def enter (dotted : Bool) : Document → List Step → List Text → Option (Document × List Step)
  | document, here, [] => some (document, here)
  | document, here, name :: names =>
    let path := here ++ [.key name]
    match document.get? path with
    | none =>
      enter dotted (document.insert path (.table (if dotted then .dotted else .passed))) path names
    | some (.value _) => none
    | some (.tables count) => enter dotted document (path ++ [.element (count - 1)]) names
    | some (.table origin) => if dotted && origin = .header then none else enter dotted document path names

/-- Gives a key in the table `here` a value; the keys before the last one lead to the table that gets it.
Only tables made by dotted keys take values by dotted keys, and no key gets two values. -/
def define (document : Document) (here : List Step) (keys : List Text) (v : Value) : Option Document :=
  match keys.getLast? with
  | none => none
  | some name => do
    let (document, table) ← enter true document here keys.dropLast
    let takes := keys.dropLast.isEmpty || document.get? table = some (.table .dotted)
    let path := table ++ [.key name]
    if takes && (document.get? path).isNone then some (document.insert path (.value v)) else none

/-- Begins the table of a header and returns its path. A table may be begun once, also after tables inside
it. -/
def beginTable (document : Document) (keys : List Text) : Option (Document × List Step) :=
  match keys.getLast? with
  | none => none
  | some name => do
    let (document, parent) ← enter false document [] keys.dropLast
    let path := parent ++ [.key name]
    match document.get? path with
    | none | some (.table .passed) => some (document.insert path (.table .header), path)
    | _ => none

/-- Begins the next element of an array of tables and returns its path. -/
def beginElement (document : Document) (keys : List Text) : Option (Document × List Step) :=
  match keys.getLast? with
  | none => none
  | some name => do
    let (document, parent) ← enter false document [] keys.dropLast
    let path := parent ++ [.key name]
    let count ← match document.get? path with
      | none => some 0
      | some (.tables count) => some count
      | _ => none
    let element := path ++ [.element count]
    some ((document.insert path (.tables (count + 1))).insert element (.table .header), element)

end Document

end FillInStory.Toml
