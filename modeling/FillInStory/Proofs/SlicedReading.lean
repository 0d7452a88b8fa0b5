import FillInStory.Proofs.Numeral
import FillInStory.Proofs.Slices
import FillInStory.Proofs.Substitution

/-! # Reading templates by byte positions

A template can be read and filled in without copying its characters one by one: searches find byte positions, and
what stands between two positions is cut out as a slice. Here any slice that is not between characters ends the
whole reading. That never happens: every position is that of a brace or lies just behind one, and what is found and
what is told are the same as without slices.
-/

namespace FillInStory

/-- Trimming leaves nothing of a blank text, and of no other. -/
theorem Text.isEmpty_trim (t : Text) : (trim t).isEmpty = t.blank := by
  rw [Bool.eq_iff_iff, List.isEmpty_iff]
  constructor
  · intro nothing
    obtain ⟨before, after, split, front, back⟩ := exists_eq_append_trim t
    rw [nothing] at split
    rw [split]
    simp_all [blank]
  · intro blank
    have nothing : trim (t ++ ([] ++ [])) = [] := trim_append blank (by simp) rfl
    simpa using nothing

/-- The name in a literal: what stands between its first and its last byte. -/
def Text.sliceName? (literal : Text) : Option Text := literal.slice? '{'.utf8Size (literal.byteSize - '}'.utf8Size)

/-- How far the reading of a template has come: the literals that were found, each once, and the byte position of the
opening brace of the field that is open, if one is. -/
structure Cursor where
  literals : List Text
  opened : Option Nat

namespace Cursor

/-- The literal is added at the end unless it is there already. -/
def insert (literals : List Text) (literal : Text) : List Text :=
  if literal ∈ literals then literals else literals ++ [literal]

/-- Closes the field that began at one byte position by the brace at another. -/
def close (t : Text) (literals : List Text) (start position : Nat) : Option (Except ParseError Cursor) := do
  let literal ← t.slice? start (position + 1)
  if literal.byteSize < 3 then
    return .error (.emptyField position)
  let name ← literal.sliceName?
  if name.trim.isEmpty then
    return .error (.emptyField position)
  return .ok ⟨insert literals literal, none⟩

def step (t : Text) (cursor : Cursor) (position : Nat) (c : Char) : Option (Except ParseError Cursor) :=
  match cursor.opened with
  | none =>
    if c = '{' then some (.ok ⟨cursor.literals, some position⟩)
    else if c = '}' then some (.error (.unmatchedClose position))
    else some (.ok cursor)
  | some start =>
    if c = '{' then some (.error (.nestedField position start))
    else if c = '}' then close t cursor.literals start position
    else some (.ok cursor)

def run (t : Text) (cursor : Cursor) (position : Nat) : Text → Option (Except ParseError Cursor)
  | [] => some (.ok cursor)
  | c :: rest =>
    match cursor.step t position c with
    | none => none
    | some (.error e) => some (.error e)
    | some (.ok next) => next.run t (position + c.utf8Size) rest

def finish (t : Text) (cursor : Cursor) : Option (Except ParseError (List Text)) :=
  match cursor.opened with
  | none => some (.ok cursor.literals)
  | some start => (t.slice? start t.byteSize).map fun rest => .error (.unterminated start rest)

/-- What the scan character by character knows, in byte positions. -/
def ofScan (scan : Scan) : Cursor := ⟨scan.fields.toList.map Field.literal, scan.opened.map OpenField.start⟩

theorem insert_literals (fields : FieldSet) (f : Field) :
    insert (fields.toList.map Field.literal) f.literal = (fields.insert f).toList.map Field.literal := by
  have same : f.literal ∈ fields.toList.map Field.literal ↔ f ∈ fields.toList :=
    List.mem_map_of_injective fun _ _ => Field.literal_injective
  rw [insert, FieldSet.toList_insert]
  by_cases present : f ∈ fields.toList
  · rw [if_pos present, if_pos (same.mpr present)]
  · rw [if_neg present, if_neg (mt same.mp present), List.map_append]
    rfl

variable {scan : Scan} {segments : List Segment} {before : Text}

/-- Between the first and the last byte of a literal stands the name. -/
theorem sliceName?_braced (name : Text) : (braced name).sliceName? = some name := by
  have size : '{'.utf8Size + name.byteSize = (braced name).byteSize - '}'.utf8Size := by
    simp [braced, Nat.add_comm]
  rw [Text.sliceName?, ← size]
  exact Text.slice?_append ['{'] name ['}']

/-- A literal of less than three bytes has no name. -/
theorem eq_nil_of_byteSize_braced_lt {name : Text} (short : (braced name).byteSize < 3) : name = [] := by
  cases name with
  | nil => rfl
  | cons c rest =>
    have long := c.utf8Size_pos
    simp only [braced, Text.byteSize_cons, Text.byteSize_append, utf8Size_openBrace, utf8Size_closeBrace,
      List.cons_append, Text.byteSize_nil] at short
    omega

/-- Where a literal was read, neither its slice nor that of its name fails. -/
theorem close_append (literals : List Text) (before name after : Text) :
    close (before ++ (braced name ++ after)) literals before.byteSize (before ++ '{' :: name).byteSize =
      some (if name.blank then .error (.emptyField (before ++ '{' :: name).byteSize)
        else .ok ⟨insert literals (braced name), none⟩) := by
  have stop : (before ++ '{' :: name).byteSize + 1 = before.byteSize + (braced name).byteSize := by
    simp [braced, Nat.add_assoc]
  simp only [close, stop, Text.slice?_append, bind, Option.bind_some]
  by_cases short : (braced name).byteSize < 3
  · rw [if_pos short, if_pos (by simp [eq_nil_of_byteSize_braced_lt short, Text.blank])]
    rfl
  · rw [if_neg short, sliceName?_braced, Option.bind_some, Text.isEmpty_trim]
    split <;> rfl

/-- What a closing brace does to a field is what it does in the scan. -/
theorem step_close {fields : FieldSet} {field : OpenField} {position : Nat}
    (read : Scan.HasRead ⟨position, fields, some field⟩ segments before) (after : Text) :
    (ofScan ⟨position, fields, some field⟩).step (before ++ '}' :: after) position '}' =
      some ((Scan.step ⟨position, fields, some field⟩ '}').map ofScan) := by
  obtain ⟨began, -, -⟩ := read.opened field rfl
  obtain rfl : position = before.byteSize := read.position
  have written : Segment.write segments ++ '{' :: field.name = before := read.written
  have spread : before ++ '}' :: after = Segment.write segments ++ (braced field.name ++ after) := by
    simp [← written, braced]
  have closed := close_append (fields.toList.map Field.literal) (Segment.write segments) field.name after
  rw [← spread, written, ← began] at closed
  refine closed.trans ?_
  by_cases blank : field.name.blank
  · simp [Scan.step, blank, Except.map]
  · have move : Scan.Step ⟨before.byteSize, fields, some field⟩ '}' _ := .closing (Bool.eq_false_iff.mpr blank)
    rw [if_neg blank, (Scan.step_eq_ok_iff _ _ _).mpr move]
    simp only [Except.map, ofScan, ← insert_literals]
    rfl

/-- No slice fails in a step, and it does what a step of the scan does. -/
theorem step_ofScan (read : scan.HasRead segments before) (c : Char) (after : Text) :
    (ofScan scan).step (before ++ c :: after) scan.position c = some ((scan.step c).map ofScan) := by
  obtain ⟨position, fields, opened⟩ := scan
  cases opened with
  | none =>
    simp only [step, ofScan, Scan.step, Option.map_none]
    split_ifs <;> rfl
  | some field =>
    by_cases isClose : c = '}'
    · subst isClose
      exact step_close read after
    · simp only [step, ofScan, Scan.step, Option.map_some, isClose, if_false]
      split_ifs <;> rfl

theorem run_ofScan (read : scan.HasRead segments before) (after : Text) :
    (ofScan scan).run (before ++ after) scan.position after = some ((scan.run after).map ofScan) := by
  induction after generalizing scan segments before with
  | nil => rfl
  | cons c after ih =>
    rw [run, step_ofScan read, Scan.run_cons]
    cases moved : scan.step c with
    | error e => rfl
    | ok next =>
      obtain ⟨more, readOne⟩ := read.step ((Scan.step_eq_ok_iff scan next c).mp moved)
      have position : next.position = scan.position + c.utf8Size := by
        rw [readOne.position, read.position]
        simp
      have rest := ih readOne
      rw [position, List.append_assoc] at rest
      exact rest

theorem finish_ofScan {t : Text} (read : scan.HasRead segments t) :
    (ofScan scan).finish t = some (scan.finish.map fun fields => fields.toList.map Field.literal) := by
  obtain ⟨position, fields, opened⟩ := scan
  cases opened with
  | none => rfl
  | some field =>
    obtain ⟨began, -, -⟩ := read.opened field rfl
    have written : Segment.write segments ++ field.text = t := read.written
    have rest : t.slice? field.start t.byteSize = some field.text := by
      rw [began, ← written]
      exact Text.slice?_byteSize _ _
    simp only [finish, ofScan, Option.map_some, rest]
    rfl

end Cursor

namespace Text

/-- The literals of the fields of a template, or the defect that ends the reading, if no slice fails. -/
def sliceFields? (t : Text) : Option (Except ParseError (List Text)) :=
  match Cursor.run t ⟨[], none⟩ 0 t with
  | none => none
  | some (.error e) => some (.error e)
  | some (.ok cursor) => cursor.finish t

/-- No slice fails when a template is read, and what is found is the same as character by character. -/
theorem sliceFields?_eq (t : Text) :
    t.sliceFields? = some ((FieldSet.parse t).map fun fields => fields.toList.map Field.literal) := by
  have ran : Cursor.run t ⟨[], none⟩ 0 t = some ((Scan.start.run t).map Cursor.ofScan) :=
    Cursor.run_ofScan Scan.hasRead_start t
  unfold sliceFields? FieldSet.parse
  rw [ran]
  cases outcome : Scan.start.run t with
  | error e => rfl
  | ok last =>
    obtain ⟨segments, read⟩ := Scan.hasRead_start.run outcome
    exact Cursor.finish_ofScan read

/-- The names of the fields of a template, or the defect that ends the reading, if no slice fails. -/
def sliceNames? (t : Text) : Option (Except ParseError (List Text)) :=
  match t.sliceFields? with
  | none => none
  | some (.error e) => some (.error e)
  | some (.ok literals) => (literals.mapM sliceName?).map .ok

theorem mapM_sliceName? (fields : FieldSet) :
    (fields.toList.map Field.literal).mapM sliceName? = some fields.names := by
  rw [List.mapM_map, show sliceName? ∘ Field.literal = fun f => some f.name from
    funext fun f => Cursor.sliceName?_braced f.name]
  exact List.mapM_pure

theorem sliceNames?_eq (t : Text) : t.sliceNames? = some ((FieldSet.parse t).map FieldSet.names) := by
  rw [sliceNames?, sliceFields?_eq]
  cases FieldSet.parse t with
  | error e => rfl
  | ok fields =>
    simp only [Except.map, mapM_sliceName?]
    rfl

end Text

namespace FieldMap

/-- The value for the shortest candidate at the head of a text, with the size of the candidate. -/
def sliceHit? (values : FieldMap) (rest : Text) : Option (Option (Nat × Text)) :=
  match Text.find? '}' rest with
  | none => some none
  | some closed =>
    (rest.slice? 0 (closed + 1)).map fun candidate => (values.get? candidate).map (candidate.byteSize, ·)

/-- What goes out for a text up to the opening brace at a byte position and for what begins there, and what remains
to be read. -/
def sliceRound? (values : FieldMap) (rest : Text) (opened : Nat) : Option (Text × Text) := do
  let before ← rest.slice? 0 opened
  let rest ← rest.slice? opened rest.byteSize
  match ← values.sliceHit? rest with
  | some (size, value) => (rest.slice? size rest.byteSize).map (before ++ value, ·)
  | none => (rest.slice? '{'.utf8Size rest.byteSize).map (before ++ ['{'], ·)

theorem sliceHit?_of_notMem (values : FieldMap) {rest : Text} (noClose : '}' ∉ rest) :
    values.sliceHit? rest = some none := by
  rw [sliceHit?, (Text.find?_eq_none_iff _ _).mpr noClose]

theorem sliceHit?_braced (values : FieldMap) {name : Text} (noClose : '}' ∉ name) (after : Text) :
    values.sliceHit? (braced name ++ after) =
      some ((values.get? (braced name)).map ((braced name).byteSize, ·)) := by
  have absent : '}' ∉ '{' :: name := by simpa using noClose
  have found := Text.find?_append_cons absent after
  have spread : braced name ++ after = ('{' :: name) ++ '}' :: after := by simp [braced]
  have size : Text.byteSize ('{' :: name) + 1 = (braced name).byteSize := by simp [braced, Nat.add_assoc]
  rw [sliceHit?, spread, found]
  simp only
  rw [← spread, size, Text.slice?_zero]
  rfl

/-- Where a search has found an opening brace no slice fails, and what goes out and what remains are known from what
begins there. -/
theorem sliceRound?_eq (values : FieldMap) (before rest : Text) :
    values.sliceRound? (before ++ '{' :: rest) before.byteSize =
      some (match values.hit? rest with
        | some (value, after) => (before ++ value, after)
        | none => (before ++ ['{'], rest)) := by
  have missed : Text.slice? ('{' :: rest) '{'.utf8Size (Text.byteSize ('{' :: rest)) = some rest :=
    Text.slice?_byteSize ['{'] rest
  simp only [sliceRound?, Text.slice?_zero, Text.slice?_byteSize, bind, Option.bind_some]
  by_cases closing : '}' ∈ rest
  · obtain ⟨name, after, rfl, noClose⟩ := List.eq_append_cons_of_mem closing
    have spread : '{' :: (name ++ '}' :: after) = braced name ++ after := by simp [braced]
    rw [hit?_name values noClose]
    cases found : values.get? (braced name) with
    | none =>
      have looked := values.sliceHit?_braced noClose after
      rw [← spread, found] at looked
      simp only [looked, Option.map_none, Option.bind_some, missed, Option.map_some]
    | some value =>
      simp only [spread, sliceHit?_braced values noClose, found, Option.map_some, Option.bind_some,
        Text.slice?_byteSize]
  · have nothing : values.hit? rest = none := by
      rw [Option.eq_none_iff_forall_ne_some]
      rintro ⟨value, after⟩ hit
      obtain ⟨name, -, rfl, -⟩ := (values.hit?_eq_some_iff rest value after).mp hit
      exact closing (by simp)
    have absent : '}' ∉ '{' :: rest := by simpa using closing
    simp only [sliceHit?_of_notMem values absent, nothing, Option.bind_some, missed, Option.map_some]

theorem length_lt_of_sliceRound? {values : FieldMap} {rest out after : Text} {opened : Nat}
    (found : Text.find? '{' rest = some opened) (round : values.sliceRound? rest opened = some (out, after)) :
    after.length < rest.length := by
  obtain ⟨before, tail, rfl, -, rfl⟩ := (Text.find?_eq_some_iff _ _ _).mp found
  rw [sliceRound?_eq, Option.some.injEq] at round
  rw [List.length_append, List.length_cons]
  split at round
  · next value rest hit =>
    have shorter := length_lt_of_hit? hit
    cases round
    omega
  · cases round
    omega

/-- Puts the values into a text, round by round. -/
def sliceFill? (values : FieldMap) (rest : Text) : Option Text :=
  match _found : Text.find? '{' rest with
  | none => some rest
  | some opened =>
    match _round : values.sliceRound? rest opened with
    | none => none
    | some (out, after) => (sliceFill? values after).map (out ++ ·)
termination_by rest.length
decreasing_by exact length_lt_of_sliceRound? _found _round

/-- No slice fails in any round, and the text is filled in as it is character by character. -/
theorem sliceFill?_eq (values : FieldMap) (t : Text) : values.sliceFill? t = some (values.fill t) := by
  fun_induction sliceFill? values t with
  | case1 rest nowhere =>
    have noOpen := (Text.find?_eq_none_iff _ _).mp nowhere
    have copied := values.fill_append_of_notMem noOpen []
    rw [fill_nil, List.append_nil] at copied
    rw [copied]
  | case2 rest opened found failed =>
    obtain ⟨before, tail, rfl, -, rfl⟩ := (Text.find?_eq_some_iff _ _ _).mp found
    rw [sliceRound?_eq] at failed
    contradiction
  | case3 rest opened found out after round ih =>
    obtain ⟨before, tail, rfl, noOpen, rfl⟩ := (Text.find?_eq_some_iff _ _ _).mp found
    rw [sliceRound?_eq, Option.some.injEq] at round
    rw [ih, fill_append_of_notMem values noOpen, Option.map_some]
    split at round
    · next value rest hit =>
      cases round
      rw [fill_of_hit values hit, List.append_assoc]
    · next miss =>
      cases round
      rw [fill_of_miss values miss, List.append_assoc]
      rfl

/-- Puts the values into a text, if no slice fails; without values there is nothing to read. -/
def sliceSubstitute? (values : FieldMap) (t : Text) : Option Text :=
  if values.isEmpty then some t else values.sliceFill? t

theorem sliceSubstitute?_eq (values : FieldMap) (t : Text) :
    values.sliceSubstitute? t = some (values.substitute t) := by
  unfold sliceSubstitute? substitute
  split
  · rfl
  · exact values.sliceFill?_eq t

end FieldMap

/-- A slice fails if its ends are out of order or not between characters. But a template can be read by byte positions,
asked for the names of its fields and filled in without any slice that fails, and all this comes out as it does
character by character. -/
theorem Text.no_slice_fails :
    (∀ (t : Text) (start stop : Nat),
      t.slice? start stop = none ↔ ¬ (start ≤ stop ∧ t.isBoundary start ∧ t.isBoundary stop)) ∧
    ∀ t : Text,
      t.sliceFields? = some ((FieldSet.parse t).map fun fields => fields.toList.map Field.literal) ∧
      t.sliceNames? = some ((FieldSet.parse t).map FieldSet.names) ∧
      ∀ values : FieldMap, values.sliceSubstitute? t = some (values.substitute t) :=
  ⟨slice?_eq_none_iff, fun t => ⟨sliceFields?_eq t, sliceNames?_eq t, fun values => values.sliceSubstitute?_eq t⟩⟩

end FillInStory
