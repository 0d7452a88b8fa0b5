import FillInStory.Proofs.Scan

/-! # The leftmost defect of a text

`Text.Defect` says what is wrong with a text, and at which byte, without mentioning the scan: up to the
brace where a defect begins the text is complete, and what follows that brace tells the kind. The scan stops
at the first character that does not fit, in one of three ways, or at the end with a field still open; what
it has read before is known from the invariant of its run. So the parser reports a defect exactly when the
text has it, and a text that is not complete has exactly one.
-/

namespace FillInStory

namespace Text

/-- A text is complete when it parses. -/
def Complete (t : Text) : Prop := ∃ fields, FieldSet.parse t = .ok fields

/-- What a text is defective in. The text before the brace at which the defect begins is complete:
* a closing brace stands at `p`,
* an opening brace stands at `o` and the next brace, at `p`, is an opening one too,
* an opening brace is closed at `p` with nothing but blank characters between them,
* an opening brace stands at `o` and no brace follows it up to the end of the text. -/
def Defect (t : Text) : ParseError → Prop
  | .unmatchedClose p =>
    ∃ before after, t = before ++ '}' :: after ∧ before.byteSize = p ∧ before.Complete
  | .nestedField p o =>
    ∃ before between after, t = before ++ '{' :: (between ++ '{' :: after) ∧ before.byteSize = o ∧
      (before ++ '{' :: between).byteSize = p ∧ before.Complete ∧ '{' ∉ between ∧ '}' ∉ between
  | .emptyField p =>
    ∃ before between after, t = before ++ '{' :: (between ++ '}' :: after) ∧
      (before ++ '{' :: between).byteSize = p ∧ before.Complete ∧ ∀ c ∈ between, isBlank c
  | .unterminated o rest =>
    ∃ before name, t = before ++ rest ∧ rest = '{' :: name ∧ before.byteSize = o ∧ before.Complete ∧
      '{' ∉ name ∧ '}' ∉ name
  | .noFields => False

theorem complete_write {segments : List Segment} (proper : ∀ s ∈ segments, s.Proper) :
    Complete (Segment.write segments) :=
  ⟨_, (FieldSet.parse_eq_ok_iff _ _).mpr ⟨segments, ⟨proper, rfl⟩, rfl⟩⟩

end Text

namespace Scan

variable {scan last : Scan} {segments : List Segment} {t before between : Text} {c : Char} {e : ParseError}

/-- The moves that end a scan. -/
inductive Stop : Scan → Char → ParseError → Prop
  | unmatched {position : Nat} {fields : FieldSet} :
      Stop ⟨position, fields, none⟩ '}' (.unmatchedClose position)
  | nested {position : Nat} {fields : FieldSet} {field : OpenField} :
      Stop ⟨position, fields, some field⟩ '{' (.nestedField position field.start)
  | blank {position : Nat} {fields : FieldSet} {field : OpenField} :
      field.name.blank = true → Stop ⟨position, fields, some field⟩ '}' (.emptyField position)

/-- The step function ends the scan in these ways and no others. -/
theorem step_eq_error_iff (scan : Scan) (c : Char) (e : ParseError) :
    scan.step c = .error e ↔ Stop scan c e := by
  constructor
  · intro failed
    obtain ⟨position, fields, opened⟩ := scan
    cases opened with
    | none =>
      simp only [step] at failed
      split_ifs at failed with isOpen isClose
      subst isClose
      cases failed
      exact .unmatched
    | some field =>
      simp only [step] at failed
      split_ifs at failed with isOpen isClose isBlank
      · subst isOpen
        cases failed
        exact .nested
      · subst isClose
        cases failed
        exact .blank isBlank
  · intro stop
    cases stop with
    | unmatched => rfl
    | nested => rfl
    | blank isBlank => simp [step, isBlank]

/-- A run that fails has read up to the character where it stops. -/
theorem exists_stop_of_run_eq_error (failed : scan.run t = .error e) :
    ∃ before c after last, t = before ++ c :: after ∧ scan.run before = .ok last ∧ Stop last c e := by
  induction t generalizing scan with
  | nil => cases failed
  | cons c rest ih =>
    rw [run_cons] at failed
    cases moved : scan.step c with
    | error d =>
      rw [moved] at failed
      obtain rfl : d = e := Except.error.inj failed
      exact ⟨[], c, rest, scan, rfl, rfl, (step_eq_error_iff scan c d).mp moved⟩
    | ok next =>
      rw [moved] at failed
      obtain ⟨before, d, after, last, rfl, ran, stop⟩ := ih failed
      refine ⟨c :: before, d, after, last, rfl, ?_, stop⟩
      rw [run_cons, moved]
      exact ran

/-- Between fields all that was read is complete. -/
theorem HasRead.complete (read : scan.HasRead segments t) (closed : scan.opened = none) : t.Complete := by
  have written := read.written
  simp only [pending, closed, Option.map_none, Option.getD_none, List.append_nil] at written
  exact written ▸ Text.complete_write read.proper

/-- Inside a field all that was read before its brace is complete. -/
theorem HasRead.exists_complete {field : OpenField} (read : scan.HasRead segments t)
    (inside : scan.opened = some field) :
    ∃ before, t = before ++ '{' :: field.name ∧ before.byteSize = field.start ∧ before.Complete ∧
      '{' ∉ field.name ∧ '}' ∉ field.name := by
  obtain ⟨began, noOpen, noClose⟩ := read.opened field inside
  refine ⟨Segment.write segments, ?_, began.symm, Text.complete_write read.proper, noOpen, noClose⟩
  simpa [pending, inside, OpenField.text] using read.written.symm

/-- Where a run stops, the text has the defect that is reported. -/
theorem Stop.defect (stop : Stop last c e) (read : last.HasRead segments before) (after : Text) :
    (before ++ c :: after).Defect e := by
  cases stop with
  | unmatched => exact ⟨before, after, rfl, read.position.symm, read.complete rfl⟩
  | @nested position fields field =>
    obtain ⟨start, rfl, began, complete, noOpen, noClose⟩ := read.exists_complete rfl
    exact ⟨start, field.name, after, by simp, began, read.position.symm, complete, noOpen, noClose⟩
  | @blank position fields field isBlank =>
    obtain ⟨start, rfl, -, complete, -, -⟩ := read.exists_complete rfl
    exact ⟨start, field.name, after, by simp, read.position.symm, complete, List.all_eq_true.mp isBlank⟩

/-- A complete text is read up to its end with no field open. -/
theorem run_of_complete (complete : before.Complete) :
    ∃ fields, start.run before = .ok ⟨before.byteSize, fields, none⟩ := by
  obtain ⟨fields, success⟩ := complete
  obtain ⟨⟨position, found, opened⟩, ran, done⟩ := (bind_eq_ok_iff _ _ _).mp success
  obtain ⟨segments, read⟩ := hasRead_start.run ran
  obtain ⟨rfl, -⟩ := (finish_eq_ok_iff _ _).mp done
  obtain rfl : position = before.byteSize := by simpa using read.position
  exact ⟨found, ran⟩

/-- Behind a complete text an opening brace begins a field, which takes letters up to the next brace. -/
theorem run_of_complete_opened (complete : before.Complete) (noOpen : '{' ∉ between) (noClose : '}' ∉ between) :
    ∃ fields, start.run (before ++ '{' :: between) =
      .ok ⟨(before ++ '{' :: between).byteSize, fields, some ⟨before.byteSize, between.reverse⟩⟩ := by
  obtain ⟨fields, ran⟩ := run_of_complete complete
  refine ⟨fields, ?_⟩
  rw [run_append, ran]
  refine (run_cons_of_step .opening between).trans ((run_letters _ _ _ noOpen noClose).trans ?_)
  simp [Nat.add_assoc]

/-- A run that stops is the end of the reading, whatever follows. -/
theorem parse_of_stop (ran : start.run before = .ok last) (stop : Stop last c e) (after : Text) :
    FieldSet.parse (before ++ c :: after) = .error e := by
  have failed : start.run (before ++ c :: after) = .error e := by
    rw [run_append, ran]
    change last.run (c :: after) = .error e
    rw [run_cons, (step_eq_error_iff last c e).mpr stop]
    rfl
  rw [FieldSet.parse, failed]
  rfl

end Scan

namespace Text

theorem defect_of_parse_eq_error {t : Text} {e : ParseError} (failed : FieldSet.parse t = .error e) :
    t.Defect e := by
  unfold FieldSet.parse at failed
  cases ran : Scan.start.run t with
  | error d =>
    rw [ran] at failed
    obtain rfl : d = e := Except.error.inj failed
    obtain ⟨before, c, after, last, rfl, ran, stop⟩ := Scan.exists_stop_of_run_eq_error ran
    obtain ⟨segments, read⟩ := Scan.hasRead_start.run ran
    exact stop.defect read after
  | ok last =>
    rw [ran] at failed
    obtain ⟨segments, read⟩ := Scan.hasRead_start.run ran
    have ended : last.finish = .error e := failed
    cases inside : last.opened with
    | none => simp [Scan.finish, inside] at ended
    | some field =>
      obtain ⟨before, whole, began, complete, noOpen, noClose⟩ := read.exists_complete inside
      obtain rfl : .unterminated field.start field.text = e := by simpa [Scan.finish, inside] using ended
      exact ⟨before, field.name, whole, rfl, began, complete, noOpen, noClose⟩

theorem parse_of_defect {t : Text} {e : ParseError} (defect : t.Defect e) : FieldSet.parse t = .error e := by
  cases e with
  | unmatchedClose p =>
    obtain ⟨before, after, rfl, rfl, complete⟩ := defect
    obtain ⟨fields, ran⟩ := Scan.run_of_complete complete
    exact Scan.parse_of_stop ran .unmatched after
  | nestedField p o =>
    obtain ⟨before, between, after, rfl, rfl, rfl, complete, noOpen, noClose⟩ := defect
    obtain ⟨fields, ran⟩ := Scan.run_of_complete_opened complete noOpen noClose
    simpa using Scan.parse_of_stop ran .nested after
  | emptyField p =>
    obtain ⟨before, between, after, rfl, rfl, complete, blank⟩ := defect
    have noBrace (c : Char) (visible : isBlank c = false) : c ∉ between := fun member => by
      simp [blank c member] at visible
    obtain ⟨fields, ran⟩ := Scan.run_of_complete_opened complete (noBrace '{' rfl) (noBrace '}' rfl)
    have isBlank : (⟨before.byteSize, between.reverse⟩ : OpenField).name.blank = true := by
      simpa [OpenField.name, Text.blank] using blank
    simpa using Scan.parse_of_stop ran (.blank isBlank) after
  | unterminated o rest =>
    obtain ⟨before, name, rfl, rfl, rfl, complete, noOpen, noClose⟩ := defect
    obtain ⟨fields, ran⟩ := Scan.run_of_complete_opened complete noOpen noClose
    rw [FieldSet.parse, ran]
    simp [Except.bind, Scan.finish, OpenField.text, OpenField.name]
  | noFields => exact defect.elim

/-- The parser reports the defect that a text has, and at the byte where it has it; a missing field is none.
A text is either complete and without a defect, or it has exactly one. -/
theorem parse_reports_leftmost_defect (t : Text) :
    (∀ e, FieldSet.parse t = .error e ↔ t.Defect e) ∧
      ((t.Complete ∧ ∀ e, ¬ t.Defect e) ∨ (¬ t.Complete ∧ ∃! e, t.Defect e)) := by
  have reports (e : ParseError) : FieldSet.parse t = .error e ↔ t.Defect e :=
    ⟨defect_of_parse_eq_error, parse_of_defect⟩
  refine ⟨reports, ?_⟩
  cases outcome : FieldSet.parse t with
  | ok fields =>
    refine Or.inl ⟨⟨fields, outcome⟩, fun e defect => ?_⟩
    cases outcome.symm.trans ((reports e).mpr defect)
  | error e =>
    refine Or.inr ⟨fun ⟨fields, success⟩ => ?_, e, (reports e).mp outcome, fun d defect => ?_⟩
    · cases outcome.symm.trans success
    · exact Except.error.inj (((reports d).mpr defect).symm.trans outcome)

end Text

end FillInStory
