import FillInStory.Proofs.Substitution
import Mathlib.Logic.Function.Basic

/-! # What a story depends on

A story is a function of the values of its template's fields and of nothing else. Whatever else a field map
names, however much it looks like a field, plays no part; and each field counts, because different values
for it always make different stories.
-/

namespace FillInStory

namespace FieldMap

/-- Two maps give some keys the same values, and leave the same ones of them without any. -/
def AgreeOn (keys : Text → Prop) (m n : FieldMap) : Prop := ∀ k, keys k → m.get? k = n.get? k

/-- The values of fields after one of them was given a value. -/
theorem get?_insert_literal (m : FieldMap) (f g : Field) (value : Text) :
    (m.insert f.literal value).get? g.literal =
      Function.update (fun f : Field => m.get? f.literal) f (some value) g := by
  rw [Dictionary.get?_insert, Function.update_apply]
  by_cases same : f = g
  · simp [same]
  · have apart : f.literal ≠ g.literal := fun literals => same (Field.literal_injective literals)
    simp [apart, Ne.symm same]

end FieldMap

namespace Segment

/-- A story is as long as its value for a field as often as the field occurs, with a rest that is the same
for all values. -/
theorem length_flatMap_update (segments : List Segment) (f : Field) (others : Field → Option Text)
    (value : Text) :
    (segments.flatMap (filledBy (Function.update others f (some value)))).length =
      (fields segments).count f * value.length +
        (segments.flatMap (filledBy (Function.update others f (some [])))).length := by
  induction segments with
  | nil => simp [fields]
  | cons s rest ih =>
    have split : fields (s :: rest) = fields [s] ++ fields rest := fields_append [s] rest
    rw [split, List.flatMap_cons, List.flatMap_cons, List.length_append, List.length_append, ih,
      List.count_append]
    cases s with
    | plain c =>
      simp [filledBy]
      omega
    | field g =>
      by_cases same : g = f
      · subst same
        simp [filledBy, Nat.add_mul]
        omega
      · simp [filledBy, same]
        omega

/-- The values that two stories have for a field that occurs can be told apart, whatever the other fields
have for values. -/
theorem flatMap_update_injective {segments : List Segment} {f : Field} (occurs : f ∈ fields segments)
    (others : Field → Option Text) :
    Function.Injective fun value => segments.flatMap (filledBy (Function.update others f (some value))) := by
  intro v w same
  dsimp only at same
  -- equal stories have values of one length, so their first occurrences are at the same place
  have lengths : v.length = w.length := by
    have total := congrArg List.length same
    rw [length_flatMap_update, length_flatMap_update segments f others w] at total
    exact Nat.eq_of_mul_eq_mul_left (List.count_pos_iff.mpr occurs) (Nat.add_right_cancel total)
  induction segments with
  | nil => simp [fields] at occurs
  | cons s rest ih =>
    rw [List.flatMap_cons, List.flatMap_cons] at same
    by_cases first : s = .field f
    · subst first
      have pieces (value : Text) :
          filledBy (Function.update others f (some value)) (.field f) = value := by simp [filledBy]
      rw [pieces, pieces] at same
      exact List.append_inj_left same lengths
    · have piece : filledBy (Function.update others f (some v)) s =
          filledBy (Function.update others f (some w)) s := by
        cases s with
        | plain c => rfl
        | field g =>
          have other : g ≠ f := fun h => first (congrArg Segment.field h)
          simp [filledBy, other]
      rw [piece] at same
      have later : f ∈ fields rest := by
        rw [mem_fields] at occurs ⊢
        exact (List.mem_cons.mp occurs).resolve_left (Ne.symm first)
      exact ih later (List.append_cancel_left same)

end Segment

theorem FieldSet.containsLiteral_iff (fields : FieldSet) (k : Text) :
    fields.containsLiteral k = true ↔ ∃ f ∈ fields.toList, f.literal = k := by
  simp [containsLiteral]

namespace Template

variable (template : Template)

/-- The story looks at the literals of the template's fields only. -/
theorem populate_congr {m n : FieldMap} (same : m.AgreeOn (template.fields.containsLiteral · = true) n) :
    template.populate m = template.populate n := by
  obtain ⟨segments, spelled, -⟩ := (FieldSet.parse_eq_ok_iff _ _).mp template.parsed
  rw [populate, populate, m.substitute_of_spells spelled, n.substitute_of_spells spelled]
  apply Segment.flatMap_filledBy_congr
  intro f occurs
  rw [← template.mem_fields_iff spelled] at occurs
  exact same f.literal ((template.fields.containsLiteral_iff _).mpr ⟨f, occurs, rfl⟩)

/-- Every field counts: no two values for it make the same story. -/
theorem populate_insert_injective {f : Field} (member : f ∈ template.fields.toList) (m : FieldMap) :
    Function.Injective fun value => template.populate (m.insert f.literal value) := by
  obtain ⟨segments, spelled, -⟩ := (FieldSet.parse_eq_ok_iff _ _).mp template.parsed
  have occurs : f ∈ Segment.fields segments := (template.mem_fields_iff spelled f).mp member
  have told (value : Text) : template.populate (m.insert f.literal value) = segments.flatMap
      (Segment.filledBy (Function.update (fun f : Field => m.get? f.literal) f (some value))) := by
    rw [populate, FieldMap.substitute_of_spells _ spelled]
    exact congrArg (fun v => segments.flatMap (Segment.filledBy v))
      (funext fun g => m.get?_insert_literal f g value)
  simpa only [told] using Segment.flatMap_update_injective occurs _

/-- A story depends on a key exactly when the key is the literal of one of the template's fields, and maps
that agree on these literals make the same story, however much they differ elsewhere. -/
theorem populate_depends_iff :
    (∀ k, (∃ m n : FieldMap, m.AgreeOn (· ≠ k) n ∧ template.populate m ≠ template.populate n) ↔
      template.fields.containsLiteral k = true) ∧
    ∀ m n : FieldMap, m.AgreeOn (template.fields.containsLiteral · = true) n →
      template.populate m = template.populate n := by
  refine ⟨fun k => ⟨?_, ?_⟩, fun m n same => template.populate_congr same⟩
  · rintro ⟨m, n, same, differ⟩
    by_contra foreign
    exact differ (template.populate_congr fun j known => same j fun h => foreign (h ▸ known))
  · intro known
    obtain ⟨f, member, rfl⟩ := (template.fields.containsLiteral_iff k).mp known
    let without : FieldMap := Dictionary.empty
    refine ⟨without.insert f.literal [], without.insert f.literal ['x'], ?_, ?_⟩
    · intro j other
      rw [Dictionary.get?_insert, Dictionary.get?_insert, if_neg (Ne.symm other), if_neg (Ne.symm other)]
    · exact fun same => List.cons_ne_nil _ _ (template.populate_insert_injective member without same).symm

end Template

end FillInStory
