import FillInStory.Proofs.Segment

/-! # What a scan finds

A successful step of the scan is one of four moves, and each keeps the same invariant: what has been read
is spelled by segments up to the field that is open, and the scan holds the fields of these segments. So a
scan that succeeds has read a text of the grammar, and every text of the grammar is read with success.
-/

namespace FillInStory

/-- Two steps one after the other succeed when both do. -/
theorem bind_eq_ok_iff {ε α β : Type} (x : Except ε α) (f : α → Except ε β) (b : β) :
    x.bind f = .ok b ↔ ∃ a, x = .ok a ∧ f a = .ok b := by
  cases x <;> simp [Except.bind]

namespace Scan

/-- The moves of a scan that do not end it. -/
inductive Step : Scan → Char → Scan → Prop
  | plain {position : Nat} {fields : FieldSet} {c : Char} :
      c ≠ '{' → c ≠ '}' →
      Step ⟨position, fields, none⟩ c ⟨position + c.utf8Size, fields, none⟩
  | opening {position : Nat} {fields : FieldSet} :
      Step ⟨position, fields, none⟩ '{' ⟨position + 1, fields, some ⟨position, []⟩⟩
  | letter {position : Nat} {fields : FieldSet} {field : OpenField} {c : Char} :
      c ≠ '{' → c ≠ '}' →
      Step ⟨position, fields, some field⟩ c
        ⟨position + c.utf8Size, fields, some ⟨field.start, c :: field.reversed⟩⟩
  | closing {position : Nat} {fields : FieldSet} {field : OpenField} :
      field.name.blank = false →
      Step ⟨position, fields, some field⟩ '}' ⟨position + 1, fields.insert ⟨field.name⟩, none⟩

/-- The step function makes these moves and no others. -/
theorem step_eq_ok_iff (scan next : Scan) (c : Char) : scan.step c = .ok next ↔ Step scan c next := by
  constructor
  · intro success
    obtain ⟨position, fields, opened⟩ := scan
    cases opened with
    | none =>
      simp only [step] at success
      split_ifs at success with isOpen isClose
      · subst isOpen
        cases success
        exact .opening
      · cases success
        exact .plain isOpen isClose
    | some field =>
      simp only [step] at success
      split_ifs at success with isOpen isClose isBlank
      · subst isClose
        cases success
        exact .closing (Bool.eq_false_iff.mpr isBlank)
      · cases success
        exact .letter isOpen isClose
  · intro move
    cases move with
    | plain notOpen notClose => simp [step, notOpen, notClose]
    | opening => rfl
    | letter notOpen notClose => simp [step, notOpen, notClose]
    | closing visible => simp [step, visible]

@[simp] theorem run_nil (scan : Scan) : scan.run [] = .ok scan := rfl

theorem run_cons (scan : Scan) (c : Char) (t : Text) :
    scan.run (c :: t) = (scan.step c).bind fun next => next.run t := rfl

theorem run_cons_of_step {scan next : Scan} {c : Char} (move : Step scan c next) (t : Text) :
    scan.run (c :: t) = next.run t := by
  rw [run_cons, (step_eq_ok_iff scan next c).mpr move]
  rfl

/-- A scan ends well when no field is open. -/
theorem finish_eq_ok_iff (scan : Scan) (fields : FieldSet) :
    scan.finish = .ok fields ↔ scan.opened = none ∧ scan.fields = fields := by
  cases status : scan.opened <;> simp [finish, status]

/-- A scan of two texts one after the other is a scan of the second from where the first one ended. -/
theorem run_append (scan : Scan) (s t : Text) :
    scan.run (s ++ t) = (scan.run s).bind fun middle => middle.run t := by
  induction s generalizing scan with
  | nil => rfl
  | cons c s ih =>
    rw [List.cons_append, run_cons, run_cons]
    cases scan.step c with
    | error e => rfl
    | ok next => exact ih next

/-- What has been read and belongs to no segment yet: the field that is open. -/
def pending (scan : Scan) : Text := (scan.opened.map OpenField.text).getD []

/-- A scan has read a text when segments spell it up to the field that is open, the fields are those of
the segments and the positions count the bytes of what was read. -/
structure HasRead (scan : Scan) (segments : List Segment) (t : Text) : Prop where
  proper : ∀ s ∈ segments, s.Proper
  written : Segment.write segments ++ scan.pending = t
  fields : scan.fields = FieldSet.ofList (Segment.fields segments)
  position : scan.position = t.byteSize
  opened : ∀ field, scan.opened = some field →
    field.start = (Segment.write segments).byteSize ∧ '{' ∉ field.name ∧ '}' ∉ field.name

theorem hasRead_start : start.HasRead [] [] where
  proper := by simp
  written := rfl
  fields := rfl
  position := rfl
  opened := by simp [start]

/-- Every move keeps the invariant; the segment that a move completes, if it does, comes last. -/
theorem HasRead.step {scan next : Scan} {segments : List Segment} {t : Text} {c : Char}
    (read : scan.HasRead segments t) (move : Step scan c next) :
    ∃ more, next.HasRead (segments ++ more) (t ++ [c]) := by
  obtain ⟨proper, written, fields, position, opened⟩ := read
  cases move with
  | plain notOpen notClose =>
    have properLast : (Segment.plain c).Proper := ⟨notOpen, notClose⟩
    refine ⟨[.plain c], ?_, ?_, ?_, ?_, by simp⟩
    · exact List.forall_mem_append.mpr ⟨proper, List.forall_mem_singleton.mpr properLast⟩
    · rw [← written]
      simp [pending, Segment.literal]
    · simpa using fields
    · simpa using position
  | opening =>
    refine ⟨[], by simpa using proper, ?_, by simpa using fields, ?_, ?_⟩
    · rw [← written]
      simp [pending, OpenField.text, OpenField.name]
    · simpa using position
    · intro field same
      obtain rfl := Option.some.inj same
      refine ⟨?_, by simp [OpenField.name], by simp [OpenField.name]⟩
      simpa [pending, ← written] using position
  | @letter p fs field c notOpen notClose =>
    refine ⟨[], by simpa using proper, ?_, by simpa using fields, by simpa using position, ?_⟩
    · rw [← written]
      simp [pending, OpenField.text, OpenField.name]
    · intro longer same
      obtain rfl := Option.some.inj same
      obtain ⟨began, noOpen, noClose⟩ := opened field rfl
      refine ⟨by simpa using began, ?_, ?_⟩
      · simpa [OpenField.name, Ne.symm notOpen] using noOpen
      · simpa [OpenField.name, Ne.symm notClose] using noClose
  | @closing p fs field visible =>
    obtain ⟨-, noOpen, noClose⟩ := opened field rfl
    have properLast : (Segment.field ⟨field.name⟩).Proper :=
      ⟨noOpen, noClose, (Text.blank_eq_false_iff _).mp visible⟩
    refine ⟨[.field ⟨field.name⟩], ?_, ?_, ?_, by simpa using position, by simp⟩
    · exact List.forall_mem_append.mpr ⟨proper, List.forall_mem_singleton.mpr properLast⟩
    · rw [← written]
      simp [pending, OpenField.text, Segment.literal, Field.literal, braced]
    · rw [Segment.fields_append, Segment.fields_field, FieldSet.ofList_concat, ← fields]

/-- The invariant survives a whole run, whatever was read before it. -/
theorem HasRead.run {scan last : Scan} {segments : List Segment} {s t : Text}
    (read : scan.HasRead segments t) (success : scan.run s = .ok last) :
    ∃ more, last.HasRead (segments ++ more) (t ++ s) := by
  induction s generalizing scan segments t with
  | nil =>
    cases success
    exact ⟨[], by simpa using read⟩
  | cons c s ih =>
    rw [run_cons, bind_eq_ok_iff] at success
    obtain ⟨next, moved, rest⟩ := success
    obtain ⟨first, readOne⟩ := read.step ((step_eq_ok_iff scan next c).mp moved)
    obtain ⟨others, readAll⟩ := ih readOne rest
    exact ⟨first ++ others, by simpa using readAll⟩

/-- Inside a field the scan takes letters up to the next brace. -/
theorem run_letters (position : Nat) (fields : FieldSet) (field : OpenField) {s : Text}
    (noOpen : '{' ∉ s) (noClose : '}' ∉ s) :
    run ⟨position, fields, some field⟩ s =
      .ok ⟨position + s.byteSize, fields, some ⟨field.start, s.reverse ++ field.reversed⟩⟩ := by
  induction s generalizing position field with
  | nil => rfl
  | cons c s ih =>
    simp only [List.mem_cons, not_or] at noOpen noClose
    rw [run_cons_of_step (.letter (Ne.symm noOpen.1) (Ne.symm noClose.1))]
    refine (ih _ _ noOpen.2 noClose.2).trans ?_
    simp [Nat.add_assoc]

/-- Between fields the scan takes a whole segment and lists its field, if it has one. -/
theorem run_literal (position : Nat) (before : List Field) {s : Segment} (proper : s.Proper) :
    run ⟨position, FieldSet.ofList before, none⟩ s.literal =
      .ok ⟨position + s.literal.byteSize, FieldSet.ofList (before ++ Segment.fields [s]), none⟩ := by
  cases s with
  | plain c =>
    refine (run_cons_of_step (.plain proper.1 proper.2) []).trans ?_
    simp [Segment.literal]
  | field f =>
    obtain ⟨noOpen, noClose, visible⟩ := proper
    let field : OpenField := ⟨position, f.name.reverse ++ []⟩
    have named : field.name = f.name := by simp [field, OpenField.name]
    have blank : field.name.blank = false := named ▸ (Text.blank_eq_false_iff _).mpr visible
    calc run ⟨position, FieldSet.ofList before, none⟩ (Segment.field f).literal
      _ = run ⟨position + 1, FieldSet.ofList before, some ⟨position, []⟩⟩ (f.name ++ ['}']) :=
        run_cons_of_step .opening _
      _ = run ⟨position + 1 + f.name.byteSize, FieldSet.ofList before, some field⟩ ['}'] := by
        rw [run_append, run_letters _ _ _ noOpen noClose]
        rfl
      _ = .ok ⟨position + 1 + f.name.byteSize + 1, (FieldSet.ofList before).insert ⟨field.name⟩, none⟩ :=
        run_cons_of_step (.closing blank) []
      _ = _ := by
        rw [named, Segment.fields_field, FieldSet.ofList_concat]
        simp [Segment.literal, Field.literal, braced]
        omega

theorem run_write (position : Nat) (before : List Field) {segments : List Segment}
    (proper : ∀ s ∈ segments, s.Proper) :
    run ⟨position, FieldSet.ofList before, none⟩ (Segment.write segments) =
      .ok ⟨position + (Segment.write segments).byteSize,
        FieldSet.ofList (before ++ Segment.fields segments), none⟩ := by
  induction segments generalizing position before with
  | nil => simp [Segment.fields]
  | cons s rest ih =>
    rw [Segment.write_cons, run_append, run_literal position before (proper s (List.mem_cons_self ..))]
    refine (ih _ _ fun x member => proper x (List.mem_cons_of_mem _ member)).trans ?_
    have split : Segment.fields (s :: rest) = Segment.fields [s] ++ Segment.fields rest :=
      Segment.fields_append [s] rest
    rw [split]
    simp [Nat.add_assoc]

end Scan

namespace FieldSet

/-- The parser accepts the texts of the grammar, and finds the fields of their segments. -/
theorem parse_eq_ok_iff (t : Text) (fields : FieldSet) :
    parse t = .ok fields ↔
      ∃ segments, Segment.Spells segments t ∧ fields = ofList (Segment.fields segments) := by
  constructor
  · intro success
    obtain ⟨last, ran, done⟩ := (bind_eq_ok_iff _ _ _).mp success
    obtain ⟨segments, read⟩ := Scan.hasRead_start.run ran
    obtain ⟨closed, rfl⟩ := (Scan.finish_eq_ok_iff last fields).mp done
    refine ⟨segments, ⟨by simpa using read.proper, ?_⟩, by simpa using read.fields⟩
    -- with no field open nothing is pending, so the segments spell all of the text
    simpa [Scan.pending, closed] using read.written
  · rintro ⟨segments, spelled, rfl⟩
    have ran := Scan.run_write 0 [] spelled.proper
    rw [spelled.written] at ran
    have start : Scan.start = ⟨0, ofList [], none⟩ := rfl
    simp [parse, start, ran, Except.bind, Scan.finish]

/-- A text parses exactly when it is a concatenation of plain characters and proper fields, and then the
literals of the fields found are those of its fields, each once, in the order of their first occurrence. -/
theorem parse_exact (t : Text) :
    ((∃ fields, parse t = .ok fields) ↔ ∃ segments, Segment.Spells segments t) ∧
      ∀ segments fields, Segment.Spells segments t → parse t = .ok fields →
        FirstOccurrences (fields.toList.map Field.literal)
          ((Segment.fields segments).map Field.literal) := by
  refine ⟨⟨?_, ?_⟩, ?_⟩
  · rintro ⟨fields, success⟩
    obtain ⟨segments, spelled, -⟩ := (parse_eq_ok_iff t fields).mp success
    exact ⟨segments, spelled⟩
  · rintro ⟨segments, spelled⟩
    exact ⟨_, (parse_eq_ok_iff t _).mpr ⟨segments, spelled, rfl⟩⟩
  · intro segments fields spelled success
    obtain ⟨others, spelledToo, rfl⟩ := (parse_eq_ok_iff t fields).mp success
    obtain rfl := spelled.unique spelledToo
    exact (firstOccurrences_ofList _).map fun _ _ => Field.literal_injective

end FieldSet

end FillInStory
