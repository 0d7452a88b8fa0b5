import FillInStory.Proofs.Defects
import FillInStory.Proofs.Substitution
import FillInStory.Text.Utf8
import FillInStory.Web.FormPage
import Mathlib.Data.List.Nodup

/-! # Names between braces

The literal of a field that is found in a text stands in this text, and its name is what stands between the braces;
so a name that is posted for a field leads back to the literal of this field and of no other one. A name between
braces is itself a text. It parses to the one field with this name exactly if the name can be a field's. Braces in
the name do not always keep it from parsing: the name may end one field and begin another, but then it is not the
name of a field (`braced_names`).
-/

namespace FillInStory

/-! ## The fields of a text -/

theorem FieldSet.nodup_names (fields : FieldSet) : fields.names.Nodup :=
  List.Nodup.map (fun _ _ => Field.name_injective) fields.nodup

/-- Between the first and the last byte of a literal stand the bytes of the name. -/
theorem Field.utf8_literal (f : Field) :
    ((Text.utf8 f.literal).take (f.literal.byteSize - 1)).drop 1 = Text.utf8 f.name := by
  have bytes : Text.utf8 f.literal = 0x7B :: (Text.utf8 f.name ++ [0x7D]) := by
    unfold literal braced
    rw [Text.utf8_cons, Text.utf8_append]
    rfl
  have size : f.literal.byteSize - 1 = (Text.utf8 f.name).length + 1 := by
    rw [← Text.length_utf8, bytes]
    simp
  rw [size, bytes, List.take_succ_cons, List.take_left, List.drop_one, List.tail_cons]

namespace Template

variable (template : Template) {f : Field}

/-- The name of the hidden input has braces, which no field's name has. -/
theorem name_ne_templateParameter (member : f ∈ template.fields.toList) : f.name ≠ templateParameter := by
  intro same
  have noOpen := (template.proper_of_mem_fields member).1
  rw [same] at noOpen
  exact noOpen (List.mem_cons_self ..)

/-- The literal of a field stands in the text. -/
theorem literal_infix_text (member : f ∈ template.fields.toList) : f.literal <:+: template.text := by
  obtain ⟨segments, spelled, -⟩ := (FieldSet.parse_eq_ok_iff _ _).mp template.parsed
  rw [template.mem_fields_iff spelled, Segment.mem_fields] at member
  obtain ⟨before, after, rfl⟩ := List.mem_iff_append.mp member
  refine ⟨Segment.write before, Segment.write after, ?_⟩
  rw [← spelled.written, Segment.write_append, Segment.write_cons, List.append_assoc]
  rfl

end Template

/-! ## A name as a text -/

namespace Segment

/-- A single field spells its literal. -/
theorem spells_literal {f : Field} (proper : f.Proper) : Spells [.field f] f.literal where
  proper _ member := List.mem_singleton.mp member ▸ proper
  written := List.append_nil _

/-- What stands between braces is the name of a single field, or it ends a first field and begins a last one. -/
theorem Spells.braced_cases {segments : List Segment} {name : Text} (spelled : Spells segments (braced name)) :
    segments = [.field ⟨name⟩] ∨
      ∃ first between last, segments = .field first :: (between ++ [.field last]) ∧
        name = first.name ++ '}' :: (write between ++ '{' :: last.name) := by
  have written := spelled.written
  cases segments with
  | nil => cases written
  | cons s rest =>
  cases s with
  | plain c => exact absurd (List.cons.inj written).1 (spelled.proper _ List.mem_cons_self).1
  | field first =>
  rcases List.eq_nil_or_concat' rest with rfl | ⟨between, s, rfl⟩
  · have same : first.name = name := braced_injective ((List.append_nil _).symm.trans written)
    exact Or.inl (same ▸ rfl)
  have ends : (first.literal ++ write between) ++ s.literal = ('{' :: name) ++ ['}'] := by
    simpa [braced, literal] using written
  cases s with
  | plain c =>
    have last : c = '}' := List.singleton_inj.mp (List.append_inj_right' ends rfl)
    exact absurd last (spelled.proper (.plain c) (by simp)).2
  | field last =>
    refine Or.inr ⟨first, between, last, rfl, ?_⟩
    have whole : braced (first.name ++ '}' :: (write between ++ '{' :: last.name)) = braced name := by
      simpa [literal, Field.literal, braced] using ends
    exact (braced_injective whole).symm

end Segment

namespace FieldSet

/-- A name that a field may have makes a text with this field alone. -/
theorem parse_braced {name : Text} (proper : Field.Proper ⟨name⟩) :
    parse (braced name) = .ok (ofList [⟨name⟩]) :=
  (parse_eq_ok_iff _ _).mpr ⟨[.field ⟨name⟩], Segment.spells_literal proper, rfl⟩

/-- A name between braces parses if a field may have the name, or if the name is that of a field, a closing brace, a
text that parses, an opening brace and the name of another field. -/
theorem complete_braced_iff (name : Text) :
    (braced name).Complete ↔ Field.Proper ⟨name⟩ ∨ ∃ (first last : Field) (between : Text),
      first.Proper ∧ last.Proper ∧ between.Complete ∧ name = first.name ++ '}' :: (between ++ '{' :: last.name) := by
  constructor
  · rintro ⟨fields, success⟩
    obtain ⟨segments, spelled, -⟩ := (parse_eq_ok_iff _ _).mp success
    rcases spelled.braced_cases with rfl | ⟨first, between, last, rfl, named⟩
    · exact Or.inl (spelled.proper _ List.mem_cons_self)
    · have inner : (Segment.write between).Complete :=
        Text.complete_write fun s member => spelled.proper s (by simp [member])
      exact Or.inr ⟨first, last, _, spelled.proper (.field first) (by simp), spelled.proper (.field last) (by simp),
        inner, named⟩
  · rintro (proper | ⟨first, last, between, properFirst, properLast, ⟨fields, success⟩, rfl⟩)
    · exact ⟨_, parse_braced proper⟩
    · obtain ⟨segments, spelled, -⟩ := (parse_eq_ok_iff _ _).mp success
      have proper : ∀ s ∈ Segment.field first :: (segments ++ [.field last]), s.Proper := by
        rintro s (_ | ⟨_, member⟩)
        · exact properFirst
        · rcases List.mem_append.mp member with inner | ends
          · exact spelled.proper s inner
          · exact List.mem_singleton.mp ends ▸ properLast
      have written : Segment.write (.field first :: (segments ++ [.field last])) =
          braced (first.name ++ '}' :: (between ++ '{' :: last.name)) := by
        simp [← spelled.written, Segment.literal, Field.literal, braced]
      exact written ▸ Text.complete_write proper

/-- To take the braces off a literal and to put them around a name are inverse for the fields of a text. A name
between braces parses to the field with this name alone exactly if it has no brace and is not blank; with braces it
parses only as a first field, a text and a last field. -/
theorem braced_names :
    (∀ (t : Text) (fields : FieldSet), parse t = .ok fields →
      (∀ f ∈ fields.toList, f.literal <:+: t ∧
        ((Text.utf8 f.literal).take (f.literal.byteSize - 1)).drop 1 = Text.utf8 f.name ∧
        braced f.name = f.literal ∧ '{' ∉ f.name ∧ '}' ∉ f.name ∧ f.name ≠ templateParameter) ∧
      fields.names.Nodup) ∧
    (∀ name : Text, (∃ fields, parse (braced name) = .ok fields ∧ fields.toList = [⟨name⟩]) ↔
      '{' ∉ name ∧ '}' ∉ name ∧ ∃ c ∈ name, ¬ isBlank c) ∧
    (∀ name : Text, (∃ fields, parse (braced name) = .ok fields) ↔
      ('{' ∉ name ∧ '}' ∉ name ∧ ∃ c ∈ name, ¬ isBlank c) ∨
        ∃ (first last : Field) (between : Text), first.Proper ∧ last.Proper ∧ between.Complete ∧
          name = first.name ++ '}' :: (between ++ '{' :: last.name)) ∧
    Function.Injective braced := by
  refine ⟨fun t fields success => ⟨fun f member => ?_, fields.nodup_names⟩, fun name => ⟨?_, fun proper => ?_⟩,
    complete_braced_iff, fun _ _ => braced_injective⟩
  · let template : Template := ⟨t, fields, success⟩
    obtain ⟨noOpen, noClose, -⟩ := template.proper_of_mem_fields member
    exact ⟨template.literal_infix_text member, f.utf8_literal, rfl, noOpen, noClose,
      template.name_ne_templateParameter member⟩
  · rintro ⟨fields, success, single⟩
    have member : (⟨name⟩ : Field) ∈ fields.toList := by simp [single]
    exact (Template.mk _ fields success).proper_of_mem_fields member
  · exact ⟨_, parse_braced proper, rfl⟩

/-- Braces around `a}{b` make a text with two fields. -/
theorem parse_braced_twofold :
    (parse (braced "a\x7d\x7bb")).map names = .ok ["a".toList, "b".toList] ∧
      ¬ ∀ name : Text, (∃ fields, parse (braced name) = .ok fields) ↔
        '{' ∉ name ∧ '}' ∉ name ∧ ∃ c ∈ name, ¬ isBlank c := by
  have twofold : parse (braced "a\x7d\x7bb") = .ok (ofList [⟨"a"⟩, ⟨"b"⟩]) := by decide
  refine ⟨by rw [twofold]; rfl, fun claim => ?_⟩
  exact ((claim "a\x7d\x7bb").mp ⟨_, twofold⟩).1 (by decide)

end FieldSet

end FillInStory
