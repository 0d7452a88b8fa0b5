import FillInStory.Text.Blank

/-! # Fields and sets of fields

A field is a named gap in a story template. In the template's text it is written as its name between
braces, its literal, and the literal is also the key under which a value for the field is looked up. A
set of fields keeps them in the order of their first occurrence.
-/

namespace FillInStory

/-- A name between braces. -/
def braced (name : Text) : Text := '{' :: (name ++ ['}'])

@[simp] theorem utf8Size_openBrace : '{'.utf8Size = 1 := rfl

@[simp] theorem utf8Size_closeBrace : '}'.utf8Size = 1 := rfl

/-- A gap in a story template. -/
structure Field where
  name : Text
  deriving DecidableEq, Repr

namespace Field

/-- The field as it is written in a template, which is also its key for substitution. -/
def literal (f : Field) : Text := braced f.name

end Field

/-- The distinct fields of a template in the order of their first occurrence. -/
structure FieldSet where
  toList : List Field
  nodup : toList.Nodup
  deriving DecidableEq, Repr

namespace FieldSet

def empty : FieldSet := ⟨[], List.nodup_nil⟩

/-- Adds a field at the end unless it is there already. -/
def insert (fields : FieldSet) (f : Field) : FieldSet :=
  if absent : f ∈ fields.toList then fields
  else
    { toList := fields.toList ++ [f]
      nodup := by
        rw [List.nodup_append]
        exact ⟨fields.nodup, by simp, fun a present b other => by
          rw [List.mem_singleton] at other
          rintro rfl
          exact absent (other ▸ present)⟩ }

/-- The distinct fields of a list, by first occurrence. -/
def ofList (fields : List Field) : FieldSet := fields.foldl insert empty

def size (fields : FieldSet) : Nat := fields.toList.length

def isEmpty (fields : FieldSet) : Bool := fields.toList.isEmpty

def containsLiteral (fields : FieldSet) (literal : Text) : Bool :=
  fields.toList.any fun f => f.literal = literal

def names (fields : FieldSet) : List Text := fields.toList.map Field.name

theorem toList_insert (fields : FieldSet) (f : Field) :
    (fields.insert f).toList = if f ∈ fields.toList then fields.toList else fields.toList ++ [f] := by
  unfold insert
  split <;> rfl

end FieldSet

theorem braced_injective {m n : Text} (same : braced m = braced n) : m = n := by
  simpa [braced] using same

theorem Field.name_injective {f g : Field} (same : f.name = g.name) : f = g := by
  cases f
  cases g
  exact congrArg Field.mk same

theorem Field.literal_injective {f g : Field} (same : f.literal = g.literal) : f = g :=
  Field.name_injective (braced_injective same)

end FillInStory
