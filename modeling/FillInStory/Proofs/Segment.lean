import FillInStory.Story.Scan
import Mathlib.Data.List.Basic
import Mathlib.Data.List.Induction

/-! # The grammar of story templates

A template is a sequence of segments: plain characters, which are no braces, and fields. A text is spelled
by at most one sequence of segments, so it makes sense to speak of the segments of a text; nothing here
mentions the scan. The fields of a template are those of its segments, each listed where it first occurs.
-/

namespace FillInStory

/-- A name that a field may have: it has no brace and a character that is not blank. -/
def Field.Proper (f : Field) : Prop := '{' ∉ f.name ∧ '}' ∉ f.name ∧ ∃ c ∈ f.name, ¬ isBlank c

instance (f : Field) : Decidable f.Proper :=
  decidable_of_iff ('{' ∉ f.name ∧ '}' ∉ f.name ∧ f.name.blank = false) <| by
    rw [Text.blank_eq_false_iff, Field.Proper]

/-- A piece of a template: a character other than a brace, or a field. -/
inductive Segment where
  | plain (c : Char)
  | field (f : Field)
  deriving DecidableEq, Repr

namespace Segment

def literal : Segment → Text
  | .plain c => [c]
  | .field f => f.literal

/-- The text that segments stand for. -/
def write (segments : List Segment) : Text := segments.flatMap literal

/-- Plain characters are no braces and fields have proper names. -/
def Proper : Segment → Prop
  | .plain c => c ≠ '{' ∧ c ≠ '}'
  | .field f => f.Proper

instance : (s : Segment) → Decidable s.Proper
  | .plain c => inferInstanceAs (Decidable (c ≠ '{' ∧ c ≠ '}'))
  | .field f => inferInstanceAs (Decidable f.Proper)

def field? : Segment → Option Field
  | .plain _ => none
  | .field f => some f

/-- The fields among segments, as often as they occur. -/
def fields (segments : List Segment) : List Field := segments.filterMap field?

/-- Segments spell a text when they are proper and stand for it. -/
structure Spells (segments : List Segment) (t : Text) : Prop where
  proper : ∀ s ∈ segments, s.Proper
  written : write segments = t

instance (segments : List Segment) (t : Text) : Decidable (Spells segments t) :=
  decidable_of_iff ((∀ s ∈ segments, s.Proper) ∧ write segments = t)
    ⟨fun h => ⟨h.1, h.2⟩, fun h => ⟨h.proper, h.written⟩⟩

@[simp] theorem write_nil : write [] = [] := rfl

@[simp] theorem write_cons (s : Segment) (rest : List Segment) :
    write (s :: rest) = s.literal ++ write rest := rfl

@[simp] theorem write_append (first second : List Segment) :
    write (first ++ second) = write first ++ write second := List.flatMap_append

@[simp] theorem fields_plain (c : Char) : fields [.plain c] = [] := rfl

@[simp] theorem fields_field (f : Field) : fields [.field f] = [f] := rfl

@[simp] theorem fields_append (first second : List Segment) :
    fields (first ++ second) = fields first ++ fields second := List.filterMap_append

@[simp] theorem mem_fields {segments : List Segment} {f : Field} :
    f ∈ fields segments ↔ .field f ∈ segments := by
  simp only [fields, List.mem_filterMap]
  constructor
  · rintro ⟨s, member, found⟩
    cases s with
    | plain c => simp [field?] at found
    | field g =>
      obtain rfl : g = f := by simpa [field?] using found
      exact member
  · intro member
    exact ⟨.field f, member, rfl⟩

/-- The closing brace ends a name, so the names of two literals with anything behind them agree. -/
theorem name_unique {m n s t : Text} (hm : '}' ∉ m) (hn : '}' ∉ n)
    (same : m ++ '}' :: s = n ++ '}' :: t) : m = n ∧ s = t := by
  induction m generalizing n with
  | nil =>
    cases n with
    | nil => exact ⟨rfl, by simpa using same⟩
    | cons d n =>
      obtain ⟨rfl, -⟩ := List.cons.inj same
      exact (hn (List.mem_cons_self ..)).elim
  | cons c m ih =>
    cases n with
    | nil =>
      obtain ⟨rfl, -⟩ := List.cons.inj same
      exact (hm (List.mem_cons_self ..)).elim
    | cons d n =>
      obtain ⟨rfl, rest⟩ := List.cons.inj same
      have tails := ih (fun h => hm (List.mem_cons_of_mem _ h)) (fun h => hn (List.mem_cons_of_mem _ h)) rest
      exact ⟨congrArg (c :: ·) tails.1, tails.2⟩

/-- The first segment of a text and what follows it are determined by the text. -/
private theorem literal_append_unique {a b : Segment} {s t : Text} (ha : a.Proper) (hb : b.Proper)
    (same : a.literal ++ s = b.literal ++ t) : a = b ∧ s = t := by
  cases a with
  | plain c =>
    cases b with
    | plain d =>
      obtain ⟨rfl, tails⟩ : c = d ∧ s = t := by simpa [literal] using same
      exact ⟨rfl, tails⟩
    | field g =>
      obtain ⟨rfl, -⟩ : c = '{' ∧ _ := by simpa [literal, Field.literal, braced] using same
      exact (ha.1 rfl).elim
  | field f =>
    cases b with
    | plain d =>
      obtain ⟨rfl, -⟩ : '{' = d ∧ _ := by simpa [literal, Field.literal, braced] using same
      exact (hb.1 rfl).elim
    | field g =>
      have rest : f.name ++ '}' :: s = g.name ++ '}' :: t := by
        simpa [literal, Field.literal, braced] using same
      obtain ⟨names, tails⟩ := name_unique ha.2.1 hb.2.1 rest
      cases f
      cases g
      exact ⟨congrArg (fun n => Segment.field ⟨n⟩) names, tails⟩

theorem literal_ne_nil (s : Segment) : s.literal ≠ [] := by
  cases s <;> simp [literal, Field.literal, braced]

/-- A text has at most one spelling. -/
theorem Spells.unique {first second : List Segment} {t : Text} (a : Spells first t) (b : Spells second t) :
    first = second := by
  -- the first segments agree because each shows where it ends, so the induction goes on behind them
  induction first generalizing second t with
  | nil =>
    cases second with
    | nil => rfl
    | cons s rest =>
      have empty : s.literal ++ write rest = [] := b.written.trans a.written.symm
      exact (literal_ne_nil s (List.append_eq_nil_iff.mp empty).1).elim
  | cons s rest ih =>
    cases second with
    | nil =>
      have empty : s.literal ++ write rest = [] := a.written.trans b.written.symm
      exact (literal_ne_nil s (List.append_eq_nil_iff.mp empty).1).elim
    | cons s' rest' =>
      have same : s.literal ++ write rest = s'.literal ++ write rest' := a.written.trans b.written.symm
      obtain ⟨rfl, tails⟩ := literal_append_unique (a.proper s (List.mem_cons_self ..))
        (b.proper s' (List.mem_cons_self ..)) same
      have others := ih ⟨fun x member => a.proper x (List.mem_cons_of_mem _ member), rfl⟩
        ⟨fun x member => b.proper x (List.mem_cons_of_mem _ member), tails.symm⟩
      exact congrArg (s :: ·) others

end Segment

/-- A list names the members of another one, each once and in the order of their first occurrences. -/
structure FirstOccurrences {α : Type} [DecidableEq α] (distinct all : List α) : Prop where
  mem_iff : ∀ a, a ∈ distinct ↔ a ∈ all
  ordered : distinct.Pairwise fun a b => all.idxOf a < all.idxOf b

namespace FirstOccurrences

variable {α β : Type} [DecidableEq α] [DecidableEq β] {distinct all : List α}

theorem nil : FirstOccurrences ([] : List α) [] := ⟨fun _ => Iff.rfl, List.Pairwise.nil⟩

/-- First occurrences stay where they are when more follows. -/
private theorem ordered_append (first : FirstOccurrences distinct all) (more : List α) :
    distinct.Pairwise fun a b => (all ++ more).idxOf a < (all ++ more).idxOf b := by
  refine first.ordered.imp_of_mem fun {a b} ha hb before => ?_
  rwa [List.idxOf_append_of_mem ((first.mem_iff a).mp ha), List.idxOf_append_of_mem ((first.mem_iff b).mp hb)]

/-- What has occurred before adds nothing. -/
theorem concat_of_mem (first : FirstOccurrences distinct all) {a : α} (present : a ∈ all) :
    FirstOccurrences distinct (all ++ [a]) where
  mem_iff b := by
    rw [first.mem_iff, List.mem_append, List.mem_singleton]
    exact ⟨Or.inl, fun h => h.elim id fun same => same ▸ present⟩
  ordered := first.ordered_append [a]

/-- What has not occurred before comes last. -/
theorem concat_of_notMem (first : FirstOccurrences distinct all) {a : α} (absent : a ∉ all) :
    FirstOccurrences (distinct ++ [a]) (all ++ [a]) where
  mem_iff b := by rw [List.mem_append, List.mem_append, first.mem_iff]
  ordered := by
    rw [List.pairwise_append]
    refine ⟨first.ordered_append [a], List.pairwise_singleton .., fun b hb c hc => ?_⟩
    obtain rfl := List.mem_singleton.mp hc
    have known : b ∈ all := (first.mem_iff b).mp hb
    rw [List.idxOf_append_of_mem known, List.idxOf_append_of_notMem absent]
    have bound := List.idxOf_lt_length_of_mem known
    omega

private theorem idxOf_map {f : α → β} (injective : Function.Injective f) (a : α) (items : List α) :
    (items.map f).idxOf (f a) = items.idxOf a := by
  induction items with
  | nil => rfl
  | cons b rest ih =>
    by_cases same : b = a
    · simp [same]
    · rw [List.map_cons, List.idxOf_cons_ne _ (injective.ne same), List.idxOf_cons_ne _ same, ih]

theorem map (first : FirstOccurrences distinct all) {f : α → β} (injective : Function.Injective f) :
    FirstOccurrences (distinct.map f) (all.map f) where
  mem_iff b := by simp only [List.mem_map, first.mem_iff]
  ordered := by
    rw [List.pairwise_map]
    simpa only [idxOf_map injective] using first.ordered

end FirstOccurrences

namespace FieldSet

theorem ofList_concat (before : List Field) (f : Field) :
    ofList (before ++ [f]) = (ofList before).insert f := by simp [ofList]

/-- A set of fields is made by listing them where they first occur. -/
theorem firstOccurrences_ofList (all : List Field) : FirstOccurrences (ofList all).toList all := by
  induction all using List.reverseRecOn with
  | nil => exact FirstOccurrences.nil
  | append_singleton before f ih =>
    rw [ofList_concat]
    by_cases present : f ∈ (ofList before).toList
    · simpa only [insert, present, ↓reduceDIte] using ih.concat_of_mem ((ih.mem_iff f).mp present)
    · simpa only [insert, present, ↓reduceDIte] using
        ih.concat_of_notMem fun member => present ((ih.mem_iff f).mpr member)

end FieldSet

end FillInStory
