import FillInStory.Proofs.Markup
import FillInStory.Proofs.Scan
import FillInStory.Proofs.Numeral
import FillInStory.Web.FormPage

/-! # What is on the page with a form

Whatever the fields of a template are called, the page has the same tags around them, and a name shows only
as the text of a label and as the value of an attribute. So the page can be read back: it says the
template's number and the names of its fields, and nothing else.
-/

namespace FillInStory.FormPage

/-- The tags before the inputs, with the name and the value of the hidden one as they are written. -/
def opening (name value : Text) : List Tag :=
  [⟨"!DOCTYPE html", "\n"⟩, ⟨"title", "Story Teller"⟩, ⟨"/title", "\n"⟩, ⟨"form method=POST", "\n"⟩,
    ⟨"input type=hidden name=\"" ++ name ++ "\" value=\"" ++ value ++ "\"", "\n"⟩]

def inputTags (label name : Text) : List Tag :=
  [⟨"label", label ++ ": "⟩, ⟨"input type=text name=\"" ++ name ++ "\"", ""⟩, ⟨"/label", ""⟩, ⟨"br", "\n"⟩]

def closing : List Tag :=
  [⟨"button type=submit", "Tell me a story!"⟩, ⟨"/button", ""⟩, ⟨"/form", "\n"⟩]

def inputs (template : Template) : List Tag :=
  template.formInputs.flatMap fun input =>
    inputTags (Text.escapeEntities input.label) (Text.escapeEntities input.name)

def tags (number : Nat) (template : Template) : List Tag :=
  opening (Text.escapeEntities templateParameter) (Text.decimal number) ++ inputs template ++ closing

/-! The texts of the page are spelled out with whatever stands for names and values, so that only the fixed
parts are computed. -/

private theorem input_written (label name : Text) :
    "<label>" ++ label ++ ": <input type=text name=\"" ++ name ++ "\"></label><br>\n" =
      (inputTags label name).flatMap Tag.write := by
  simp [inputTags, Tag.write]

private theorem page_written (name value : Text) (inputs : List Tag) :
    "<!DOCTYPE html>\n<title>Story Teller</title>\n<form method=POST>\n<input type=hidden name=\""
        ++ name ++ "\" value=\"" ++ value ++ "\">\n" ++ inputs.flatMap Tag.write
        ++ "<button type=submit>Tell me a story!</button></form>\n" =
      (opening name value ++ inputs ++ closing).flatMap Tag.write := by
  simp [opening, closing, Tag.write]

/-- The page is written tag by tag. -/
theorem render_eq (number : Nat) (template : Template) :
    render number template = (tags number template).flatMap Tag.write := by
  have lines : template.formInputs.flatMap inputLine = (inputs template).flatMap Tag.write := by
    rw [inputs, List.flatMap_assoc]
    exact List.flatMap_congr fun input _ => input_written _ _
  have page := page_written (Text.escapeEntities templateParameter) (Text.decimal number) (inputs template)
  rw [← lines] at page
  exact page

theorem notMem_decimal {c : Char} (special : c ∈ ['<', '>', '"']) (number : Nat) : c ∉ Text.decimal number := by
  intro member
  have none : ∀ c ∈ ['<', '>', '"'], c.isDigit = false := by simp
  exact absurd (Text.isDigit_of_mem_decimal member) (Bool.eq_false_iff.mp (none c special))

theorem proper_opening (number : Nat) :
    ∀ tag ∈ opening (Text.escapeEntities templateParameter) (Text.decimal number), tag.Proper := by
  have shown {c : Char} (bracket : c ∈ ['<', '>']) : c ∉ Text.escapeEntities templateParameter :=
    Text.notMem_escapeEntities (List.mem_append_left ['"', '\'', '/'] bracket) _
  have digits {c : Char} (bracket : c ∈ ['<', '>']) : c ∉ Text.decimal number :=
    notMem_decimal (List.mem_append_left ['"'] bracket) number
  simp only [opening, List.forall_mem_cons, List.not_mem_nil, false_implies, implies_true, and_true]
  refine ⟨by decide, by decide, by decide, by decide, ?_⟩
  simp [Tag.Proper, shown, digits]

/-- The tags for an input are tags, whatever its label and its name are. -/
theorem proper_inputTags (label name : Text) :
    ∀ tag ∈ inputTags (Text.escapeEntities label) (Text.escapeEntities name), tag.Proper := by
  have shown {c : Char} (bracket : c ∈ ['<', '>']) (t : Text) : c ∉ Text.escapeEntities t :=
    Text.notMem_escapeEntities (List.mem_append_left ['"', '\'', '/'] bracket) t
  simp [inputTags, Tag.Proper, shown]

theorem proper_tags (number : Nat) (template : Template) : ∀ tag ∈ tags number template, tag.Proper := by
  have last : ∀ tag ∈ closing, tag.Proper := by decide
  have middle : ∀ tag ∈ inputs template, tag.Proper := by
    intro tag member
    obtain ⟨input, -, within⟩ := List.mem_flatMap.mp member
    exact proper_inputTags input.label input.name tag within
  intro tag member
  rcases List.mem_append.mp member with before | after
  · rcases List.mem_append.mp before with first | second
    · exact proper_opening number tag first
    · exact middle tag second
  · exact last tag after

/-- The page is read as the tags that it was made of. -/
theorem readAll_render (number : Nat) (template : Template) :
    Tag.readAll (render number template) = tags number template := by
  rw [render_eq, Tag.readAll_write (proper_tags number template)]

/-! ## Reading the page -/

section Reading

variable {name value label : Text}

/-- The hidden input has a name and a value, each up to the next quote. -/
theorem values_opening (noQuote : '"' ∉ name) (noQuote' : '"' ∉ value) :
    (opening name value).flatMap (Tag.values "name") = [name] ∧
      (opening name value).flatMap (Tag.values "value") = [value] := by
  have shape : "input type=hidden name=\"" ++ name ++ "\" value=\"" ++ value ++ "\"" =
      "input type=hidden name=" ++ '"' :: (name ++ '"' :: (" value=" ++ '"' :: (value ++ ['"']))) := by simp
  have quoted : Tag.quotedValues (pieces '"'
      ("input type=hidden name=\"" ++ name ++ "\" value=\"" ++ value ++ "\"")) =
        [("input type=hidden name=".toList, name), (" value=".toList, value)] := by
    rw [shape, Tag.quotedValues_cons (by decide) noQuote, Tag.quotedValues_cons (by decide) noQuote']
    rfl
  simp only [opening, List.flatMap_cons, Tag.values, quoted]
  exact ⟨rfl, rfl⟩

/-- Every other input has a name. -/
theorem values_inputTags (noQuote : '"' ∉ name) :
    (inputTags label name).flatMap (Tag.values "name") = [name] ∧
      (inputTags label name).flatMap (Tag.values "value") = [] := by
  have shape : "input type=text name=\"" ++ name ++ "\"" =
      "input type=text name=" ++ '"' :: (name ++ ['"']) := by simp
  have quoted : Tag.quotedValues (pieces '"' ("input type=text name=\"" ++ name ++ "\"")) =
      [("input type=text name=".toList, name)] := by
    rw [shape, Tag.quotedValues_cons (by decide) noQuote]
    rfl
  simp only [inputTags, List.flatMap_cons, Tag.values, quoted]
  exact ⟨rfl, rfl⟩

end Reading

variable (number : Nat) (template : Template)

theorem noQuote (t : Text) : '"' ∉ Text.escapeEntities t := Text.notMem_escapeEntities (by decide) t

/-- The names on the page are that of the hidden input and those of the fields. -/
theorem names_render : Tag.valuesOn (render number template) "name" =
    Text.escapeEntities templateParameter :: template.fields.names.map Text.escapeEntities := by
  have first := (values_opening (noQuote templateParameter) (notMem_decimal (by decide) number)).1
  have middle : (inputs template).flatMap (Tag.values "name") =
      template.fields.names.map Text.escapeEntities := by
    rw [inputs, List.flatMap_assoc]
    simp only [(values_inputTags (noQuote _)).1, Template.formInputs, FieldSet.names, List.flatMap_map,
      List.map_map]
    exact List.map_eq_flatMap.symm
  have last : closing.flatMap (Tag.values "name") = [] := by decide
  rw [Tag.valuesOn, readAll_render, tags, List.flatMap_append, List.flatMap_append, first, middle, last,
    List.append_nil, List.singleton_append]

/-- The only value on the page is the template's number. -/
theorem values_render : Tag.valuesOn (render number template) "value" = [Text.decimal number] := by
  have first := (values_opening (noQuote templateParameter) (notMem_decimal (by decide) number)).2
  have middle : (inputs template).flatMap (Tag.values "value") = [] := by
    rw [inputs, List.flatMap_assoc]
    simp only [(values_inputTags (noQuote _)).2]
    exact List.flatMap_eq_nil_iff.mpr fun _ _ => rfl
  have last : closing.flatMap (Tag.values "value") = [] := by decide
  rw [Tag.valuesOn, readAll_render, tags, List.flatMap_append, List.flatMap_append, first, middle, last]
  rfl

/-- The labels on the page say the names of the fields. -/
theorem labels_render : Tag.textsOn (render number template) "label" =
    template.fields.names.map fun name => Text.escapeEntities name ++ ": " := by
  have first (name value : Text) : (opening name value).filter (Tag.isPlain "label") = [] := by
    simp [opening, Tag.isPlain]
  have one (label name : Text) :
      (inputTags label name).filter (Tag.isPlain "label") = [⟨"label", label ++ ": "⟩] := by
    simp [inputTags, Tag.isPlain]
  have middle : (inputs template).filter (Tag.isPlain "label") =
      template.fields.names.map fun name => ⟨"label", Text.escapeEntities name ++ ": "⟩ := by
    rw [inputs, List.filter_flatMap]
    simp only [one, Template.formInputs, FieldSet.names, List.flatMap_map, List.map_map]
    exact List.map_eq_flatMap.symm
  have last : closing.filter (Tag.isPlain "label") = [] := by decide
  rw [Tag.textsOn, readAll_render, tags, List.filter_append, List.filter_append, first, middle, last,
    List.append_nil, List.nil_append, List.map_map]
  rfl

/-! ## Counting on the page -/

/-- What every part has as often occurs in all of them together as often as there are parts. -/
private theorem count_flatMap_of_forall {α β : Type} [DecidableEq α] {c : α} {f : β → List α} {n : Nat}
    (each : ∀ b, (f b).count c = n) (items : List β) : (items.flatMap f).count c = n * items.length := by
  induction items with
  | nil => rfl
  | cons b rest ih => rw [List.flatMap_cons, List.count_append, each, ih, List.length_cons, Nat.mul_succ,
      Nat.add_comm]

/-- A character occurs on the page in the tags that are always there, and as often in those for one input
as in those for any other. -/
theorem count_render {c : Char} {n : Nat}
    (each : ∀ label name,
      ((inputTags (Text.escapeEntities label) (Text.escapeEntities name)).flatMap Tag.write).count c = n) :
    (render number template).count c =
      ((opening (Text.escapeEntities templateParameter) (Text.decimal number)).flatMap Tag.write).count c
        + n * template.fields.size + (closing.flatMap Tag.write).count c := by
  have middle : ((inputs template).flatMap Tag.write).count c = n * template.fields.size := by
    have counted := count_flatMap_of_forall (fun input : FormInput => each input.label input.name)
      template.formInputs
    rw [Template.formInputs, List.length_map] at counted
    rw [inputs, List.flatMap_assoc]
    exact counted
  simp only [render_eq, tags, List.flatMap_append, List.count_append, middle]

theorem count_bracket_render {c : Char} (bracket : c ∈ ['<', '>']) :
    (render number template).count c = 8 + 4 * template.fields.size := by
  have first := Tag.count_write bracket (proper_opening number)
  have one (label name : Text) : ((inputTags (Text.escapeEntities label) (Text.escapeEntities name)).flatMap
      Tag.write).count c = 4 := Tag.count_write bracket (proper_inputTags label name)
  have last : (closing.flatMap Tag.write).count c = closing.length := Tag.count_write bracket (by decide)
  have total := count_render number template one
  rw [first, last] at total
  simp only [opening, closing, List.length_cons, List.length_nil] at total
  omega

/-- The hidden input has four quotes and every other one has two. -/
theorem count_quote_render : (render number template).count '"' = 4 + 2 * template.fields.size := by
  have first {name value : Text} (noQuote : '"' ∉ name) (noQuote' : '"' ∉ value) :
      ((opening name value).flatMap Tag.write).count '"' = 4 := by
    simp only [opening, Tag.write, List.flatMap_cons, List.flatMap_nil, List.count_append, List.count_cons,
      List.count_eq_zero.mpr noQuote, List.count_eq_zero.mpr noQuote']
    decide
  have one {label name : Text} (noQuote : '"' ∉ label) (noQuote' : '"' ∉ name) :
      ((inputTags label name).flatMap Tag.write).count '"' = 2 := by
    simp only [inputTags, Tag.write, List.flatMap_cons, List.flatMap_nil, List.count_append, List.count_cons,
      List.count_eq_zero.mpr noQuote, List.count_eq_zero.mpr noQuote']
    decide
  have last : (closing.flatMap Tag.write).count '"' = 0 := by decide
  have total := count_render number template fun label name => one (noQuote label) (noQuote name)
  rw [first (noQuote _) (notMem_decimal (by decide) number), last] at total
  omega

/-! ## What the page says -/

theorem map_unescape_names : (Tag.valuesOn (render number template) "name").map Text.unescapeEntities =
    templateParameter :: template.fields.names := by
  rw [names_render, List.map_cons, List.map_map, Text.unescapeEntities_escape]
  simp only [Function.comp_def, Text.unescapeEntities_escape, List.map_id']

theorem map_unescape_labels : (Tag.textsOn (render number template) "label").map Text.unescapeEntities =
    template.fields.names.map (· ++ [':', ' ']) := by
  have colon : Text.unescapeEntities ": " = [':', ' '] := by decide
  rw [labels_render, List.map_map]
  simp only [Function.comp_def, Text.unescapeEntities_escape_append, colon]

/-- Only the number and the names make the page. -/
theorem render_eq_render_iff (m : Nat) (other : Template) :
    render m other = render number template ↔ m = number ∧ other.fields.names = template.fields.names := by
  constructor
  · intro same
    have values := values_render m other
    have names := map_unescape_names m other
    rw [same, values_render] at values
    rw [same, map_unescape_names] at names
    refine ⟨?_, (List.cons.inj names).2.symm⟩
    rw [← Nat.ofDigitChars_ten_toDigits (n := m), ← Nat.ofDigitChars_ten_toDigits (n := number)]
    exact congrArg (Nat.ofDigitChars 10 · 0) (List.cons.inj values).1.symm
  · rintro ⟨rfl, names⟩
    have asked (t : Template) : t.formInputs = t.fields.names.map fun name => ⟨name, name⟩ := by
      simp [Template.formInputs, FieldSet.names]
    have inputs : other.formInputs = template.formInputs := by rw [asked, asked, names]
    unfold render
    rw [inputs]

/-- Whatever its fields are called, a template's page has the brackets and quotes of the page's own tags and
no others. The names of the inputs, read up to the next quote and with the entities undone, are that of the
hidden input and those of the fields in the order of their first occurrence; the labels say the same names
and the hidden value is the template's number. So pages are equal only for equal numbers and names. -/
theorem render_reads_back :
    ((render number template).count '<' = 8 + 4 * template.fields.size ∧
      (render number template).count '>' = 8 + 4 * template.fields.size ∧
      (render number template).count '"' = 4 + 2 * template.fields.size) ∧
    (Tag.valuesOn (render number template) "name").length = 1 + template.fields.size ∧
    (Tag.valuesOn (render number template) "name").map Text.unescapeEntities =
      templateParameter :: template.fields.names ∧
    (∃ segments, Segment.Spells segments template.text ∧
      FirstOccurrences template.fields.names ((Segment.fields segments).map Field.name)) ∧
    (Tag.textsOn (render number template) "label").map Text.unescapeEntities =
      template.fields.names.map (· ++ [':', ' ']) ∧
    Tag.valuesOn (render number template) "value" = [Text.decimal number] ∧
    ∀ m other, render m other = render number template ↔
      m = number ∧ other.fields.names = template.fields.names := by
  have bracket {c : Char} (bracket : c ∈ ['<', '>']) := count_bracket_render number template bracket
  refine ⟨⟨bracket (by decide), bracket (by decide), count_quote_render number template⟩, ?_,
    map_unescape_names number template, ?_, map_unescape_labels number template,
    values_render number template, render_eq_render_iff number template⟩
  · rw [names_render, List.length_cons, List.length_map, FieldSet.names, List.length_map, FieldSet.size,
      Nat.add_comm]
  · obtain ⟨segments, spelled, found⟩ := (FieldSet.parse_eq_ok_iff _ _).mp template.parsed
    refine ⟨segments, spelled, ?_⟩
    rw [FieldSet.names, found]
    exact (FieldSet.firstOccurrences_ofList _).map fun _ _ => Field.name_injective

end FillInStory.FormPage
