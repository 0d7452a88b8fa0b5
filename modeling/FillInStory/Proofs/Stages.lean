import FillInStory.Proofs.Substitution

/-! # Filling in stages

A story whose values hold no braces is a template again: its fields are those of the template it was told
from that had no value, and they may be given theirs later. So it makes no difference whether a template is
filled at once or in several stages, or in which order fields get their values.
-/

namespace FillInStory

namespace Dictionary

variable {κ α : Type} [DecidableEq κ]

/-- The entries of two dictionaries; a key of both has the value of the first. -/
def union (m n : Dictionary κ α) : Dictionary κ α where
  entries := m.entries ++ (n.filter fun k _ => !m.contains k).entries
  nodup_keys := by
    rw [List.map_append, List.nodup_append]
    refine ⟨m.nodup_keys, (n.filter _).nodup_keys, fun k known j other same => ?_⟩
    obtain ⟨entry, member, rfl⟩ := List.mem_map.mp other
    have foreign : m.get? entry.1 = none := by simpa [contains] using (List.mem_filter.mp member).2
    exact (m.get?_eq_none_iff _).mp foreign (same ▸ known)

theorem find?_append (k : κ) (first second : List (κ × α)) :
    find? k (first ++ second) = (find? k first).or (find? k second) := by
  induction first with
  | nil => rfl
  | cons entry rest ih => by_cases same : entry.1 = k <;> simp [find?, same, ih]

theorem get?_union (m n : Dictionary κ α) (k : κ) : (m.union n).get? k = (m.get? k).or (n.get? k) := by
  have later : find? k (n.filter fun k _ => !m.contains k).entries = (n.get? k).filter fun _ => !m.contains k :=
    n.get?_filter _ k
  rw [get?, union, find?_append, later, ← get?]
  cases known : m.get? k <;> cases n.get? k <;> simp [contains, known]

theorem get?_union_comm {m n : Dictionary κ α} (apart : m.keys.Disjoint n.keys) (k : κ) :
    (m.union n).get? k = (n.union m).get? k := by
  rw [get?_union, get?_union]
  by_cases known : k ∈ m.keys
  · rw [(n.get?_eq_none_iff k).mpr (apart known), Option.or_none, Option.none_or]
  · rw [(m.get?_eq_none_iff k).mpr known, Option.or_none, Option.none_or]

end Dictionary

namespace FieldSet

/-- The first occurrences of some of the fields come in the order in which they come among all of them. -/
theorem toList_ofList_filter (p : Field → Bool) (all : List Field) :
    (ofList (all.filter p)).toList = (ofList all).toList.filter p := by
  induction all using List.reverseRecOn with
  | nil => rfl
  | append_singleton before f ih =>
    rw [List.filter_append, ofList_concat, toList_insert]
    cases kept : p f with
    | false =>
      rw [List.filter_singleton, kept, Bool.cond_false, List.append_nil, ih]
      split <;> simp [kept]
    | true =>
      rw [List.filter_singleton, kept, Bool.cond_true, ofList_concat, toList_insert, ih]
      by_cases present : f ∈ (ofList before).toList <;> simp [present, kept]

end FieldSet

namespace Segment

/-- What a segment is after filling: the characters of its field's value, or the segment itself. -/
def filled (value : Field → Option Text) : Segment → List Segment
  | .plain c => [.plain c]
  | .field f => (value f).elim [.field f] (·.map .plain)

theorem write_map_plain (t : Text) : write (t.map .plain) = t := by
  induction t with
  | nil => rfl
  | cons c t ih => exact congrArg (c :: ·) ih

theorem fields_map_plain (t : Text) : fields (t.map .plain) = [] := by
  induction t with
  | nil => rfl
  | cons c t ih => exact ih

theorem write_filled (value : Field → Option Text) (s : Segment) : write (s.filled value) = s.filledBy value := by
  cases s with
  | plain c => rfl
  | field f => cases told : value f <;> simp [filled, filledBy, told, write_map_plain, literal]

theorem write_flatMap_filled (value : Field → Option Text) (segments : List Segment) :
    write (segments.flatMap (filled value)) = segments.flatMap (filledBy value) := by
  rw [write, List.flatMap_assoc]
  exact List.flatMap_congr fun s _ => write_filled value s

/-- Filling a second time gives values to the fields that had none. -/
theorem flatMap_filledBy_filled (first second : Field → Option Text) (segments : List Segment) :
    (segments.flatMap (filled first)).flatMap (filledBy second) =
      segments.flatMap (filledBy fun f => (first f).or (second f)) := by
  rw [List.flatMap_assoc]
  refine List.flatMap_congr fun s _ => ?_
  cases s with
  | plain c => rfl
  | field f => cases told : first f <;> simp [filled, filledBy, told, List.flatMap_map]

theorem fields_filled (value : Field → Option Text) (segments : List Segment) :
    fields (segments.flatMap (filled value)) = (fields segments).filter fun f => (value f).isNone := by
  induction segments with
  | nil => rfl
  | cons s rest ih =>
    have split : fields (s :: rest) = fields [s] ++ fields rest := fields_append [s] rest
    rw [List.flatMap_cons, fields_append, ih, split, List.filter_append]
    congr 1
    cases s with
    | plain c => rfl
    | field f => cases told : value f <;> simp [filled, told, fields_map_plain]

/-- Filled segments are proper again if no value holds a brace. -/
theorem proper_filled {value : Field → Option Text} {segments : List Segment}
    (proper : ∀ s ∈ segments, s.Proper)
    (clear : ∀ f ∈ fields segments, ∀ t ∈ value f, '{' ∉ t ∧ '}' ∉ t) :
    ∀ s ∈ segments.flatMap (filled value), s.Proper := by
  intro s member
  obtain ⟨origin, present, made⟩ := List.mem_flatMap.mp member
  cases origin with
  | plain c =>
    obtain rfl := List.mem_singleton.mp made
    exact proper _ present
  | field f =>
    cases told : value f with
    | none =>
      obtain rfl : s = .field f := by simpa [filled, told] using made
      exact proper _ present
    | some t =>
      obtain ⟨c, letter, rfl⟩ : ∃ c ∈ t, .plain c = s := by simpa [filled, told] using made
      obtain ⟨noOpen, noClose⟩ := clear f (mem_fields.mpr present) t told
      exact ⟨fun same => noOpen (same ▸ letter), fun same => noClose (same ▸ letter)⟩

/-- A text that is spelled without fields has no braces. -/
theorem notMem_write {segments : List Segment} (proper : ∀ s ∈ segments, s.Proper)
    (noFields : fields segments = []) : '{' ∉ write segments ∧ '}' ∉ write segments := by
  have plain : ∀ s ∈ segments, '{' ∉ s.literal ∧ '}' ∉ s.literal := by
    intro s member
    cases s with
    | plain c =>
      obtain ⟨notOpen, notClose⟩ := proper _ member
      exact ⟨by simpa [literal] using Ne.symm notOpen, by simpa [literal] using Ne.symm notClose⟩
    | field f => exact absurd (mem_fields.mpr member) (noFields ▸ List.not_mem_nil)
  constructor <;> intro brace <;> obtain ⟨s, member, found⟩ := List.mem_flatMap.mp brace
  · exact (plain s member).1 found
  · exact (plain s member).2 found

end Segment

/-- No value for a field of a template holds a brace. -/
def FieldMap.ClearFor (values : FieldMap) (template : Template) : Prop :=
  ∀ f ∈ template.fields.toList, ∀ value ∈ values.get? f.literal, '{' ∉ value ∧ '}' ∉ value

instance (values : FieldMap) (template : Template) : Decidable (values.ClearFor template) :=
  inferInstanceAs (Decidable (∀ f ∈ template.fields.toList, ∀ value ∈ values.get? f.literal,
    '{' ∉ value ∧ '}' ∉ value))

namespace Template

variable (template : Template)

/-- A story without braces in its values is spelled by the filled segments of its template. -/
theorem exists_spells_populate {values : FieldMap} (clear : values.ClearFor template) :
    ∃ segments, Segment.Spells segments template.text ∧
      template.fields = FieldSet.ofList (Segment.fields segments) ∧
        Segment.Spells (segments.flatMap (Segment.filled fun f => values.get? f.literal))
          (template.populate values) := by
  obtain ⟨segments, spelled, found⟩ := (FieldSet.parse_eq_ok_iff _ _).mp template.parsed
  refine ⟨segments, spelled, found, ?_, ?_⟩
  · apply Segment.proper_filled spelled.proper
    intro f occurs
    apply clear f
    exact (template.mem_fields_iff spelled f).mpr occurs
  · rw [Segment.write_flatMap_filled, populate, values.substitute_of_spells spelled]

/-- A story parses again if no value holds a brace, and its fields are those of the template that have no
value, in the same order. When every field has a value no brace is left. -/
theorem parse_populate {values : FieldMap} (clear : values.ClearFor template) :
    (∃ fields, FieldSet.parse (template.populate values) = .ok fields ∧
      fields.toList = template.fields.toList.filter fun f => !values.contains f.literal) ∧
    ((∀ f ∈ template.fields.toList, values.contains f.literal = true) →
      '{' ∉ template.populate values ∧ '}' ∉ template.populate values) := by
  obtain ⟨segments, spelled, found, filled⟩ := template.exists_spells_populate clear
  have left := Segment.fields_filled (fun f => values.get? f.literal) segments
  refine ⟨⟨_, (FieldSet.parse_eq_ok_iff _ _).mpr ⟨_, filled, rfl⟩, ?_⟩, ?_⟩
  · rw [left, FieldSet.toList_ofList_filter, found]
    simp [Dictionary.contains]
  · intro covered
    rw [← filled.written]
    refine Segment.notMem_write filled.proper ?_
    rw [left, List.filter_eq_nil_iff]
    intro f occurs absent
    have known := covered f ((template.mem_fields_iff spelled f).mpr occurs)
    rw [Dictionary.contains, Option.isSome_iff_ne_none] at known
    exact known (Option.isNone_iff_eq_none.mp absent)

/-- A template in which a field occurs again. -/
def meeting : Template :=
  ⟨"{a} met {b}, {c} and {a}.", ⟨[⟨"a"⟩, ⟨"b"⟩, ⟨"c"⟩], by decide⟩, by decide⟩

/-- One field has a value, or all have. -/
theorem parse_populate_meeting :
    let values : FieldMap := Dictionary.ofList [("{b}", "Zoë")]
    let all : FieldMap := Dictionary.ofList [("{c}", ""), ("{b}", "Zoë"), ("{a}", "Bo")]
    values.ClearFor meeting ∧ (∃ fields, FieldSet.parse (meeting.populate values) = .ok fields ∧
      fields.toList = [⟨"a"⟩, ⟨"c"⟩]) ∧ all.ClearFor meeting ∧ '{' ∉ meeting.populate all := by
  intro values all
  have clear : values.ClearFor meeting := by decide
  have clear' : all.ClearFor meeting := by decide
  obtain ⟨fields, parsed, left⟩ := (meeting.parse_populate clear).1
  exact ⟨clear, ⟨fields, parsed, left.trans (by decide)⟩, clear',
    ((meeting.parse_populate clear').2 (by decide)).1⟩

/-- What is filled in later goes where nothing has been filled in before. -/
theorem substitute_populate {m : FieldMap} (clear : m.ClearFor template) (n : FieldMap) :
    n.substitute (template.populate m) = template.populate (m.union n) := by
  obtain ⟨segments, spelled, -, filled⟩ := template.exists_spells_populate clear
  rw [n.substitute_of_spells filled, Segment.flatMap_filledBy_filled, populate,
    FieldMap.substitute_of_spells _ spelled]
  simp only [Dictionary.get?_union]

/-- Filling with one map and then with another fills with both, the first map deciding about fields that
both name. So maps without a common key may come in either order, and coming again changes nothing. -/
theorem populate_staged {m : FieldMap} (clear : m.ClearFor template) :
    (∀ n : FieldMap, n.substitute (template.populate m) = template.populate (m.union n)) ∧
      (∀ n : FieldMap, n.ClearFor template → m.keys.Disjoint n.keys →
        n.substitute (template.populate m) = m.substitute (template.populate n)) ∧
      m.substitute (template.populate m) = template.populate m := by
  refine ⟨template.substitute_populate clear, ?_, ?_⟩
  · intro n clear' apart
    rw [template.substitute_populate clear, template.substitute_populate clear']
    exact FieldMap.substitute_congr (Dictionary.get?_union_comm apart) _
  · rw [template.substitute_populate clear]
    apply FieldMap.substitute_congr
    intro k
    rw [Dictionary.get?_union, Option.or_self]

/-- A first stage that leaves a field for the second, and a second whose value for it looks like a field. -/
theorem populate_staged_meeting :
    let m : FieldMap := Dictionary.ofList [("{b}", "Zoë")]
    let n : FieldMap := Dictionary.ofList [("{b}", "Eve"), ("{a}", "{b}")]
    let k : FieldMap := Dictionary.ofList [("{c}", ""), ("{a}", "Bo")]
    m.ClearFor meeting ∧ n.substitute (meeting.populate m) = meeting.populate (m.union n) ∧
      k.ClearFor meeting ∧ m.keys.Disjoint k.keys ∧
        k.substitute (meeting.populate m) = m.substitute (meeting.populate k) := by
  intro m n k
  have clear : m.ClearFor meeting := by decide
  have clear' : k.ClearFor meeting := by decide
  have apart : m.keys.Disjoint k.keys := List.disjoint_left.mpr (by decide)
  have staged := meeting.populate_staged clear
  exact ⟨clear, staged.1 n, clear', apart, staged.2.1 k clear' apart⟩

end Template

end FillInStory
