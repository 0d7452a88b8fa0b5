import FillInStory.Proofs.TomlDocument
import FillInStory.Proofs.TomlReading

/-! # Documents line by line

A document of lines with a key and a value each is read line by line, and every line gives its key a value in
the document that the lines before it make (`readLines_of_lines`). If the keys have distinct names at their
start, nothing is in the way of any of them (`Document.exists_defineAll`). Whatever else is read, a name keeps
the value that it has outside all tables (`keepsAt_readLines`).
-/

namespace FillInStory.Toml

/-! ## Lines -/

/-- Lines with line ends between them, and behind the last one or not. -/
inductive Lines : List Text → Text → Prop where
  | none : Lines [] []
  | last (line : Text) : Lines [line] line
  | next (line : Text) {lines : List Text} {t : Text} (others : Lines lines t) :
      Lines (line :: lines) (line ++ '\n' :: t)

/-- What may stand behind a value: blanks, and then a comment or nothing. -/
def Trailing (t : Text) : Prop :=
  ∃ blanks comment : Text, t = blanks ++ comment ∧ (∀ c ∈ blanks, c = ' ' ∨ c = '\t') ∧
    (comment = [] ∨ ∃ note : Text, comment = '#' :: note ∧ ∀ c ∈ note, isOrdinary c)

/-- A well-formed line for an assignment: its key, an equals sign and its value. -/
def Entry (line : Text) (a : Assignment) : Prop :=
  ∃ afterKey afterEquals afterValue : Text, readKey (skipSpace line) = some (a.keys, afterKey) ∧
    afterChar '=' afterKey = some afterEquals ∧
    readValue nestingLimit (skipSpace afterEquals) = some (a.value, afterValue) ∧ Trailing afterValue

theorem skipSpace_append_of_blank {blanks : Text} (blank : ∀ c ∈ blanks, c = ' ' ∨ c = '\t') (t : Text) :
    skipSpace (blanks ++ t) = skipSpace t :=
  List.dropWhile_append_of_pos fun c member => by simpa using blank c member

theorem afterLine_of_trailing {t : Text} (trailing : Trailing t) : afterLine t = some [] := by
  obtain ⟨blanks, comment, rfl, blank, rfl | ⟨note, rfl, ordinary⟩⟩ := trailing
  · rw [afterLine, skipSpace_append_of_blank blank]
    rfl
  · have ended : note.dropWhile isOrdinary = [] := List.dropWhile_eq_nil_iff.mpr ordinary
    rw [afterLine, skipSpace_append_of_blank blank]
    simp [skipSpace, ended]

theorem afterLine_append_newline {t : Text} (trailing : Trailing t) (more : Text) :
    afterLine (t ++ '\n' :: more) = some more := by
  obtain ⟨blanks, comment, rfl, blank, rfl | ⟨note, rfl, ordinary⟩⟩ := trailing
  · rw [List.append_nil, afterLine, skipSpace_append_of_blank blank]
    rfl
  · have ended : (note ++ '\n' :: more).dropWhile isOrdinary = '\n' :: more := by
      rw [dropWhile_append_newline rfl, List.dropWhile_eq_nil_iff.mpr ordinary, List.nil_append]
    rw [afterLine, List.append_assoc, skipSpace_append_of_blank blank]
    simp [skipSpace, ended, afterLineEnd?]

variable {line : Text} {a : Assignment}

/-! ## The first line of a text -/

/-- A text begins with a line that must have a key: neither a header nor a comment begins it, it is not blank,
and no byte order mark stands before it. -/
def Begins (t : Text) : Prop := ∃ c rest, skipSpace t = c :: rest ∧ c ∉ ['[', '#', '\n', '\r', '\uFEFF']

variable {t : Text} {others : List Text}

theorem Begins.ne_nil (begins : Begins t) : t ≠ [] := by
  rintro rfl
  obtain ⟨c, rest, begun, -⟩ := begins
  cases begun

theorem Begins.of_lines (begins : Begins line) (written : Lines (line :: others) t) : Begins t := by
  cases written with
  | last => exact begins
  | @next _ _ more =>
    obtain ⟨c, rest, begun, plain⟩ := begins
    exact ⟨c, rest ++ '\n' :: more, by rw [skipSpace_append_newline, begun, List.cons_append], plain⟩

theorem Begins.parse?_eq (begins : Begins t) : parse? t = readLines (t.length + 1) Dictionary.empty [] t := by
  obtain ⟨d, t, rfl⟩ := List.exists_cons_of_ne_nil begins.ne_nil
  obtain ⟨c, rest, begun, plain⟩ := begins
  have unmarked : d ≠ '\uFEFF' := by
    rintro rfl
    obtain ⟨rfl, -⟩ := List.cons.inj begun
    simp at plain
  simp [parse?, unmarked]

theorem Begins.readLines_eq (begins : Begins t) (fuel : Nat) (document : Document) (here : List Step) :
    readLines (fuel + 1) document here t =
      (keyLine document here (skipSpace t)).bind fun (changed, rest) => readLines fuel changed here rest := by
  obtain ⟨c, rest, begun, plain⟩ := begins
  simp only [List.mem_cons, List.not_mem_nil, or_false, not_or] at plain
  obtain ⟨noHeader, noComment, noEnd, noReturn, -⟩ := plain
  rw [readLines, begun]
  split
  · contradiction
  · next others same => exact absurd (List.cons.inj same).1 noHeader
  · next d others _ same =>
    cases same
    simp [noComment, noEnd, noReturn]

theorem Entry.begins (entry : Entry line a) : Begins line := by
  obtain ⟨afterKey, -, -, key, -⟩ := entry
  cases begun : skipSpace line with
  | nil =>
    rw [begun] at key
    cases key
  | cons c rest =>
    refine ⟨c, rest, begun, fun member => ?_⟩
    rw [begun] at key
    simp only [List.mem_cons, List.not_mem_nil, or_false] at member
    rcases member with rfl | rfl | rfl | rfl | rfl <;> cases key

/-- At the end of a text a line defines what it says. -/
theorem Entry.keyLine_eq (entry : Entry line a) (document : Document) (here : List Step) :
    keyLine document here (skipSpace line) = (document.define here a.keys a.value).map fun d => (d, []) := by
  obtain ⟨afterKey, afterEquals, afterValue, key, equals, value, trailing⟩ := entry
  simp only [keyLine, key, equals, value, afterLine_of_trailing trailing, Option.bind_eq_bind, Option.bind_some]
  cases document.define here a.keys a.value <;> rfl

/-- Before more lines, a line defines what it says and leaves them. -/
theorem Entry.keyLine_append_newline (entry : Entry line a) (document : Document) (here : List Step) (more : Text) :
    keyLine document here (skipSpace line ++ '\n' :: more) =
      (document.define here a.keys a.value).map fun d => (d, more) := by
  obtain ⟨afterKey, afterEquals, afterValue, key, equals, value, trailing⟩ := entry
  simp only [keyLine, leavesLines_readKey key, afterChar_append_newline, equals, skipSpace_append_newline,
    leavesLines_readValue _ value, afterLine_append_newline trailing, ne_eq, Char.reduceEq, not_false_eq_true,
    Option.map_some, Option.bind_eq_bind, Option.bind_some]
  cases document.define here a.keys a.value <;> rfl

/-- The first line of a text defines what it says, and the lines behind it are read on from there. -/
theorem Entry.readLines_eq (entry : Entry line a) (written : Lines (line :: others) t) :
    ∃ more, Lines others more ∧ ∀ fuel document here,
      readLines (fuel + 1) document here t =
        (document.define here a.keys a.value).bind fun changed => readLines fuel changed here more := by
  have begins := entry.begins.of_lines written
  cases written with
  | last =>
    refine ⟨[], .none, fun fuel document here => ?_⟩
    rw [begins.readLines_eq, entry.keyLine_eq]
    cases document.define here a.keys a.value <;> rfl
  | @next _ _ more others =>
    refine ⟨more, others, fun fuel document here => ?_⟩
    rw [begins.readLines_eq, skipSpace_append_newline, entry.keyLine_append_newline]
    cases document.define here a.keys a.value <;> rfl

/-! ## Whole documents -/

/-- Reading well-formed lines makes their assignments one after another. -/
theorem readLines_of_lines {lines : List Text} {assignments : List Assignment} {t : Text} (written : Lines lines t)
    (entries : List.Forall₂ Entry lines assignments) {fuel : Nat} (enough : lines.length < fuel)
    (document : Document) : readLines fuel document [] t = document.defineAll assignments := by
  induction entries generalizing t fuel document with
  | nil =>
    obtain ⟨fuel, rfl⟩ := Nat.exists_eq_add_of_lt enough
    cases written
    rfl
  | @cons line a lines assignments entry entries ih =>
    obtain ⟨fuel, rfl⟩ := Nat.exists_eq_add_of_lt enough
    obtain ⟨more, rest, read⟩ := entry.readLines_eq written
    rw [read, Document.defineAll, List.foldlM_cons]
    refine congrArg (Option.bind _) (funext fun changed => ?_)
    exact ih rest (by simp only [List.length_cons]; omega) changed

/-- A text of well-formed lines has no fewer characters than lines. -/
theorem Lines.length_le {lines : List Text} {assignments : List Assignment} {t : Text} (written : Lines lines t)
    (entries : List.Forall₂ Entry lines assignments) : lines.length ≤ t.length := by
  induction entries generalizing t with
  | nil => exact Nat.zero_le _
  | cons entry _ ih =>
    have filled := List.length_pos_iff.mpr entry.begins.ne_nil
    cases written with
    | last => exact filled
    | next _ others =>
      have fewer := ih others
      simp only [List.length_cons, List.length_append]
      omega

/-- A document of well-formed lines is what their assignments make. -/
theorem parse?_of_lines {lines : List Text} {assignments : List Assignment} {t : Text} (written : Lines lines t)
    (entries : List.Forall₂ Entry lines assignments) :
    parse? t = Document.defineAll Dictionary.empty assignments := by
  cases entries with
  | nil =>
    cases written
    rfl
  | cons entry rest =>
    have enough := Nat.lt_succ_of_le (written.length_le (.cons entry rest))
    rw [(entry.begins.of_lines written).parse?_eq, readLines_of_lines written (.cons entry rest) enough]

/-! ## What stays -/

theorem exists_define_of_keyLine {document changed : Document} {here : List Step} {t rest : Text}
    (read : keyLine document here t = some (changed, rest)) :
    ∃ keys v, document.define here keys v = some changed := by
  unfold keyLine at read
  obtain ⟨⟨keys, afterKey⟩, -, read⟩ := Option.bind_eq_some_iff.mp read
  obtain ⟨afterEquals, -, read⟩ := Option.bind_eq_some_iff.mp read
  obtain ⟨⟨v, afterValue⟩, -, read⟩ := Option.bind_eq_some_iff.mp read
  obtain ⟨more, -, read⟩ := Option.bind_eq_some_iff.mp read
  obtain ⟨document, defined, same⟩ := Option.bind_eq_some_iff.mp read
  cases same
  exact ⟨keys, v, defined⟩

theorem keepsAt_headerLine {document changed : Document} {table : List Step} {t rest : Text}
    (read : headerLine document t = some ((changed, table), rest)) (name : Text) :
    Document.KeepsAt [.key name] document changed := by
  unfold headerLine at read
  split at read
  · obtain ⟨⟨keys, afterKey⟩, -, read⟩ := Option.bind_eq_some_iff.mp read
    obtain ⟨afterBrackets, -, read⟩ := Option.bind_eq_some_iff.mp read
    obtain ⟨more, -, read⟩ := Option.bind_eq_some_iff.mp read
    obtain ⟨begun, element, same⟩ := Option.bind_eq_some_iff.mp read
    cases same
    exact Document.keepsAt_beginElement element
  · obtain ⟨⟨keys, afterKey⟩, -, read⟩ := Option.bind_eq_some_iff.mp read
    obtain ⟨afterBracket, -, read⟩ := Option.bind_eq_some_iff.mp read
    obtain ⟨more, -, read⟩ := Option.bind_eq_some_iff.mp read
    obtain ⟨begun, header, same⟩ := Option.bind_eq_some_iff.mp read
    cases same
    exact Document.keepsAt_beginTable header

/-- What stands outside all tables stays there, whatever is read. -/
theorem keepsAt_readLines {fuel : Nat} {document final : Document} {here : List Step} {t : Text}
    (read : readLines fuel document here t = some final) (name : Text) :
    Document.KeepsAt [.key name] document final := by
  induction fuel generalizing document here t with
  | zero => cases read
  | succ fuel ih =>
    rw [readLines] at read
    split at read
    · cases read
      exact .refl _ _
    · obtain ⟨⟨⟨changed, table⟩, more⟩, header, read⟩ := Option.bind_eq_some_iff.mp read
      exact (keepsAt_headerLine header name).trans (ih read)
    · split_ifs at read with passed
      · obtain ⟨more, -, read⟩ := Option.bind_eq_some_iff.mp read
        exact ih read
      · obtain ⟨⟨changed, more⟩, line, read⟩ := Option.bind_eq_some_iff.mp read
        obtain ⟨keys, v, defined⟩ := exists_define_of_keyLine line
        exact (Document.keepsAt_define defined).trans (ih read)

/-! ## One line among others -/

section Among

variable {before after : List Text}

/-- Reading goes on to a line behind well-formed ones. -/
theorem exists_readLines_of_lines {fuel : Nat} {document final : Document}
    (written : Lines (before ++ line :: after) t) (entries : ∀ other ∈ before, ∃ b, Entry other b)
    (read : readLines fuel document [] t = some final) :
    ∃ fuel document t, Lines (line :: after) t ∧ readLines fuel document [] t = some final := by
  induction before generalizing t fuel document with
  | nil => exact ⟨fuel, document, t, written, read⟩
  | cons first before ih =>
    obtain ⟨⟨b, entry⟩, entries⟩ := List.forall_mem_cons.mp entries
    obtain ⟨more, rest, ahead⟩ := entry.readLines_eq written
    cases fuel with
    | zero => cases read
    | succ fuel =>
      rw [ahead] at read
      obtain ⟨changed, -, read⟩ := Option.bind_eq_some_iff.mp read
      exact ih rest entries read

theorem exists_readLines_of_parse? {final : Document} (written : Lines (before ++ line :: after) t)
    (entries : ∀ other ∈ before, ∃ b, Entry other b) (begins : Begins line) (read : parse? t = some final) :
    ∃ fuel document t, Lines (line :: after) t ∧ readLines fuel document [] t = some final := by
  have first : Begins t := by
    cases before with
    | nil => exact begins.of_lines written
    | cons other before =>
      obtain ⟨b, entry⟩ := entries other List.mem_cons_self
      exact entry.begins.of_lines written
  rw [first.parse?_eq] at read
  exact exists_readLines_of_lines written entries read

/-- What a line says of a name stands in the document, whatever other lines there are. -/
theorem Entry.root?_of_parse? {final : Document} (entry : Entry line a) (written : Lines (before ++ line :: after) t)
    (entries : ∀ other ∈ before, ∃ b, Entry other b) (read : parse? t = some final) :
    ∃ d, final.root? a.name = some d ∧ d.value? = if a.inner = [] then some a.value else none := by
  obtain ⟨fuel, document, rest, written, read⟩ := exists_readLines_of_parse? written entries entry.begins read
  obtain ⟨more, -, ahead⟩ := entry.readLines_eq written
  cases fuel with
  | zero => cases read
  | succ fuel =>
    rw [ahead] at read
    obtain ⟨changed, defined, read⟩ := Option.bind_eq_some_iff.mp read
    obtain ⟨d, present, value⟩ := Document.root?_define defined
    obtain ⟨e, present, same⟩ := keepsAt_readLines read a.name d present
    exact ⟨e, present, same.trans value⟩

/-- A line that cannot be read makes the document none, whatever other lines there are. -/
theorem parse?_eq_none (begins : Begins line) (written : Lines (before ++ line :: after) t)
    (entries : ∀ other ∈ before, ∃ b, Entry other b)
    (refused : ∀ t, Lines (line :: after) t → ∀ document, keyLine document [] (skipSpace t) = none) :
    parse? t = none := by
  refine Option.eq_none_iff_forall_ne_some.mpr fun final read => ?_
  obtain ⟨fuel, document, rest, written, read⟩ := exists_readLines_of_parse? written entries begins read
  cases fuel with
  | zero => cases read
  | succ fuel =>
    rw [(begins.of_lines written).readLines_eq, refused rest written] at read
    cases read

end Among

end FillInStory.Toml
