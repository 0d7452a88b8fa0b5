import FillInStory.Proofs.Defects

/-! # Reading one text behind another

A scan that begins later, with some bytes read and some fields known, makes the moves of a scan from the start:
its positions are so many bytes further on, and what it finds comes behind the fields that are known
(`Scan.run_shift`). So behind a text that parses, another one is read as it is alone, and either its fields are
added or its defect is reported further on. A brace that does not fit is the end of the reading, whatever follows.
-/

namespace FillInStory

/-- The same defect in a text that has so many bytes more in front. -/
def ParseError.shift (bytes : Nat) : ParseError → ParseError
  | .emptyField close => .emptyField (bytes + close)
  | .unmatchedClose close => .unmatchedClose (bytes + close)
  | .unterminated start rest => .unterminated (bytes + start) rest
  | .nestedField inner start => .nestedField (bytes + inner) (bytes + start)
  | .noFields => .noFields

namespace FieldSet

/-- The fields of two sets: those of the first one, and then those that only the second one has. -/
def union (first second : FieldSet) : FieldSet where
  toList := first.toList ++ second.toList.filter fun f => f ∉ first.toList
  nodup := by
    rw [List.nodup_append]
    refine ⟨first.nodup, second.nodup.filter _, ?_⟩
    rintro f known _ other rfl
    simpa [known] using (List.mem_filter.mp other).2

theorem toList_union (first second : FieldSet) :
    (first.union second).toList = first.toList ++ second.toList.filter fun f => f ∉ first.toList := rfl

theorem ext_toList {first second : FieldSet} (same : first.toList = second.toList) : first = second := by
  cases first
  cases second
  congr

@[simp] theorem union_empty (first : FieldSet) : first.union empty = first :=
  ext_toList (by simp [toList_union, empty])

/-- A field is added to both of two sets by adding it to the second one. -/
theorem union_insert (first second : FieldSet) (f : Field) :
    first.union (second.insert f) = (first.union second).insert f := by
  apply ext_toList
  rw [toList_union, toList_insert, toList_insert, toList_union]
  by_cases known : f ∈ first.toList <;> by_cases found : f ∈ second.toList <;> simp [known, found]

end FieldSet

namespace Scan

/-- The scan as it is behind a text of so many bytes with these fields. -/
def shift (bytes : Nat) (known : FieldSet) (scan : Scan) : Scan where
  position := bytes + scan.position
  fields := known.union scan.fields
  opened := scan.opened.map fun field => { field with start := bytes + field.start }

variable {scan next : Scan} {c : Char} {e : ParseError}

theorem Step.shift (move : Step scan c next) (bytes : Nat) (known : FieldSet) :
    Step (scan.shift bytes known) c (next.shift bytes known) := by
  cases move with
  | plain notOpen notClose =>
    simp only [Scan.shift, Option.map_none, ← Nat.add_assoc]
    exact .plain notOpen notClose
  | opening => exact .opening
  | letter notOpen notClose =>
    simp only [Scan.shift, Option.map_some, ← Nat.add_assoc]
    exact .letter notOpen notClose
  | closing visible =>
    simp only [Scan.shift, Option.map_some, Option.map_none, ← Nat.add_assoc, FieldSet.union_insert]
    exact .closing visible

theorem Stop.shift (stop : Stop scan c e) (bytes : Nat) (known : FieldSet) :
    Stop (scan.shift bytes known) c (e.shift bytes) := by
  cases stop with
  | unmatched => exact .unmatched
  | nested => exact .nested
  | blank isBlank => exact .blank isBlank

/-- What a scan does behind another text is what it does at the start, further on. -/
theorem run_shift (bytes : Nat) (known : FieldSet) (scan : Scan) (t : Text) :
    (scan.shift bytes known).run t =
      ((scan.run t).map (Scan.shift bytes known)).mapError (ParseError.shift bytes) := by
  induction t generalizing scan with
  | nil => rfl
  | cons c t ih =>
    cases outcome : scan.step c with
    | ok next =>
      have move := (step_eq_ok_iff scan next c).mp outcome
      rw [run_cons_of_step (move.shift bytes known), run_cons_of_step move]
      exact ih next
    | error e =>
      have stop := (step_eq_error_iff scan c e).mp outcome
      rw [run_cons, run_cons, outcome, (step_eq_error_iff _ _ _).mpr (stop.shift bytes known)]
      rfl

theorem finish_shift (bytes : Nat) (known : FieldSet) (scan : Scan) :
    (scan.shift bytes known).finish =
      (scan.finish.map known.union).mapError (ParseError.shift bytes) := by
  obtain ⟨position, fields, opened⟩ := scan
  cases opened <;> rfl

/-- A text that parses is read up to its end, and its fields are known then. -/
theorem run_of_parse {s : Text} {fields : FieldSet} (success : FieldSet.parse s = .ok fields) :
    start.run s = .ok (start.shift s.byteSize fields) := by
  obtain ⟨found, ran⟩ := run_of_complete ⟨fields, success⟩
  rw [FieldSet.parse, ran] at success
  obtain rfl : found = fields := Except.ok.inj success
  rw [ran]
  simp [shift, start]

end Scan

namespace FieldSet

variable {s : Text} {fields : FieldSet} {e : ParseError}

/-- Behind a text that parses another one is read as it is alone, further on and with the fields known. -/
theorem parse_append_of_ok (success : parse s = .ok fields) (t : Text) :
    parse (s ++ t) = ((parse t).map fields.union).mapError (ParseError.shift s.byteSize) := by
  rw [parse, Scan.run_append, Scan.run_of_parse success]
  change ((Scan.start.shift s.byteSize fields).run t).bind Scan.finish = _
  rw [Scan.run_shift, parse]
  cases Scan.start.run t with
  | error e => rfl
  | ok last => exact Scan.finish_shift s.byteSize fields last

/-- A defect that ends the reading before the text does is the defect of every longer text. -/
theorem parse_append_of_error (failed : parse s = .error e) (ended : ∀ o rest, e ≠ .unterminated o rest)
    (t : Text) : parse (s ++ t) = .error e := by
  rw [parse] at failed ⊢
  rw [Scan.run_append]
  cases ran : Scan.start.run s with
  | error d =>
    rw [ran] at failed
    exact failed
  | ok last =>
    -- a scan that comes to the end can only fail with a field still open
    rw [ran] at failed
    change last.finish = .error e at failed
    obtain ⟨position, found, opened⟩ := last
    cases opened with
    | none => cases failed
    | some field =>
      obtain rfl : .unterminated field.start field.text = e := Except.error.inj failed
      exact (ended _ _ rfl).elim

/-- Texts are parsed one behind the other. Behind a text that parses, a second one parses exactly if it does
alone, and then its fields come behind those of the first, without those that the first has; if the second has
a defect, the whole has it too, as many bytes further on as the first text takes. A defect of the first other
than a field that does not end is the defect of the whole, whatever follows. -/
theorem parse_append (s t : Text) :
    (∀ fields, parse s = .ok fields →
      ((∃ all, parse (s ++ t) = .ok all) ↔ ∃ more, parse t = .ok more) ∧
      (∀ more, parse t = .ok more → ∃ all, parse (s ++ t) = .ok all ∧
        all.toList = fields.toList ++ more.toList.filter fun f => f ∉ fields.toList) ∧
      ∀ e, parse t = .error e → parse (s ++ t) = .error (e.shift s.byteSize)) ∧
    ∀ e, parse s = .error e → (∀ o rest, e ≠ .unterminated o rest) → parse (s ++ t) = .error e := by
  refine ⟨fun fields success => ?_, fun e failed ended => parse_append_of_error failed ended t⟩
  rw [parse_append_of_ok success t]
  cases outcome : parse t with
  | ok more =>
    refine ⟨?_, ?_, ?_⟩
    · exact ⟨fun _ => ⟨more, rfl⟩, fun _ => ⟨fields.union more, rfl⟩⟩
    · intro found same
      obtain rfl := Except.ok.inj same
      exact ⟨fields.union more, rfl, fields.toList_union more⟩
    · intro e failed
      cases failed
  | error d =>
    refine ⟨?_, ?_, ?_⟩
    · constructor <;> rintro ⟨found, success⟩ <;> cases success
    · intro more success
      cases success
    · intro e failed
      obtain rfl := Except.error.inj failed
      rfl

/-- A first text with a character of two bytes, before a text with a field that it has too, before one with a
field that does not end, and a first text with a blank field. -/
theorem parse_append_accented :
    (∃ all, parse ("é{a}{b}".toList ++ "{b}{c}{a}".toList) = .ok all ∧
      all.toList = [⟨"a"⟩, ⟨"b"⟩] ++ [⟨"c"⟩]) ∧
    parse ("é{a}{b}".toList ++ "x\x7by".toList) = .error (.unterminated (8 + 1) "\x7by") ∧
    parse ("\x7b \x7d".toList ++ "\x7ba".toList) = .error (.emptyField 2) := by
  have first : parse "é{a}{b}" = .ok ⟨[⟨"a"⟩, ⟨"b"⟩], by decide⟩ := rfl
  have second : parse "{b}{c}{a}" = .ok ⟨[⟨"b"⟩, ⟨"c"⟩, ⟨"a"⟩], by decide⟩ := rfl
  have opened : parse "x\x7by" = .error (.unterminated 1 "\x7by") := rfl
  have blank : parse "\x7b \x7d" = .error (.emptyField 2) := rfl
  refine ⟨?_, ?_, ?_⟩
  · obtain ⟨all, success, found⟩ := ((parse_append _ _).1 _ first).2.1 _ second
    exact ⟨all, success, found.trans (by decide)⟩
  · exact ((parse_append _ _).1 _ first).2.2 _ opened
  · exact (parse_append _ _).2 _ blank (by simp)

end FieldSet

end FillInStory
