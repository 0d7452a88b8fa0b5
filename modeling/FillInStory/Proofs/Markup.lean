import FillInStory.Text.Entity
import Mathlib.Data.List.Basic

/-! # Reading markup back

A page is read as a browser would read it: an angle bracket opens a tag and the next one closes it, inside
a tag a quote opens a value and the next one closes it, and an entity stands for its character. Escaped
text has neither brackets nor quotes, so a page that is written tag by tag is read as the same tags, and
reading the entities gives the text back.
-/

namespace FillInStory

namespace Text

/-- Puts the characters back for which entities stand; an ampersand that begins none stays. -/
def unescapeEntities : Text → Text
  | '&' :: 'a' :: 'm' :: 'p' :: ';' :: rest => '&' :: unescapeEntities rest
  | '&' :: 'l' :: 't' :: ';' :: rest => '<' :: unescapeEntities rest
  | '&' :: 'g' :: 't' :: ';' :: rest => '>' :: unescapeEntities rest
  | '&' :: 'q' :: 'u' :: 'o' :: 't' :: ';' :: rest => '"' :: unescapeEntities rest
  | '&' :: '#' :: 'x' :: '2' :: '7' :: ';' :: rest => '\'' :: unescapeEntities rest
  | '&' :: '#' :: 'x' :: '2' :: 'F' :: ';' :: rest => '/' :: unescapeEntities rest
  | c :: rest => c :: unescapeEntities rest
  | [] => []

theorem unescapeEntities_cons {c : Char} (plain : c ≠ '&') (rest : Text) :
    unescapeEntities (c :: rest) = c :: unescapeEntities rest := by
  conv_lhs => unfold unescapeEntities
  split <;> simp_all

/-- What is written for a character is read as the character, whatever follows. -/
theorem unescapeEntities_entity_append (c : Char) (rest : Text) :
    unescapeEntities (entity c ++ rest) = c :: unescapeEntities rest := by
  unfold entity
  split
  all_goals try rfl
  next ampersand _ _ _ _ _ => exact unescapeEntities_cons ampersand rest

/-- Undoing the entities gives back every text that was escaped, up to what follows it. -/
theorem unescapeEntities_escape_append (t rest : Text) :
    unescapeEntities (escapeEntities t ++ rest) = t ++ unescapeEntities rest := by
  induction t with
  | nil => rfl
  | cons c t ih =>
    have split : escapeEntities (c :: t) ++ rest = entity c ++ (escapeEntities t ++ rest) := by
      simp [escapeEntities]
    rw [split, unescapeEntities_entity_append, ih, List.cons_append]

theorem unescapeEntities_escape (t : Text) : unescapeEntities (escapeEntities t) = t := by
  simpa [unescapeEntities] using unescapeEntities_escape_append t []

/-- The characters that markup takes for its own do not occur in what is written for a character. -/
theorem notMem_entity {c : Char} (special : c ∈ ['<', '>', '"', '\'', '/']) (d : Char) : c ∉ entity d := by
  simp only [List.mem_cons, List.not_mem_nil, or_false] at special
  unfold entity
  split
  case h_7 =>
    rw [List.mem_singleton]
    rintro rfl
    simp_all
  -- what is written for the characters that have an entity is fixed text
  all_goals rcases special with rfl | rfl | rfl | rfl | rfl <;> decide

theorem notMem_escapeEntities {c : Char} (special : c ∈ ['<', '>', '"', '\'', '/']) (t : Text) :
    c ∉ escapeEntities t := by
  rw [escapeEntities, List.mem_flatMap]
  rintro ⟨d, -, member⟩
  exact notMem_entity special d member

end Text

/-- A tag, without its angle brackets, and the text behind it up to the next tag. -/
structure Tag where
  inside : Text
  after : Text
  deriving DecidableEq, Repr

namespace Tag

def write (tag : Tag) : Text := '<' :: (tag.inside ++ '>' :: tag.after)

/-- No angle bracket stands where it would begin or end another tag. -/
def Proper (tag : Tag) : Prop :=
  ('<' ∉ tag.inside ∧ '>' ∉ tag.inside) ∧ '<' ∉ tag.after ∧ '>' ∉ tag.after

instance (tag : Tag) : Decidable tag.Proper :=
  inferInstanceAs (Decidable (('<' ∉ tag.inside ∧ '>' ∉ tag.inside) ∧ '<' ∉ tag.after ∧ '>' ∉ tag.after))

/-- The tag whose opening bracket stands before some text. -/
def ofText (t : Text) : Tag := ⟨(Text.cut '>' t).1, (Text.cut '>' t).2.getD []⟩

def readAll (page : Text) : List Tag := (pieces '<' page).tail.map ofText

/-- The values between quotes, each with what stands before it. -/
def quotedValues : List Text → List (Text × Text)
  | before :: value :: rest => (before, value) :: quotedValues rest
  | _ => []

def values (name : Text) (tag : Tag) : List Text :=
  ((quotedValues (pieces '"' tag.inside)).filter fun q =>
    (' ' :: (name ++ ['='])).isSuffixOf q.1).map Prod.snd

def valuesOn (page name : Text) : List Text := (readAll page).flatMap (values name)

/-- Whether a tag is its name alone. -/
def isPlain (name : Text) (tag : Tag) : Bool := tag.inside = name

/-- The texts on a page that stand behind the tags with a name and no attributes. -/
def textsOn (page name : Text) : List Text := ((readAll page).filter (isPlain name)).map after

theorem cut_append_cons {separator : Char} {s : Text} (absent : separator ∉ s) (t : Text) :
    Text.cut separator (s ++ separator :: t) = (s, some t) := by
  induction s with
  | nil => simp [Text.cut]
  | cons c s ih =>
    simp only [List.mem_cons, not_or] at absent
    simp [Text.cut, Ne.symm absent.1, ih absent.2]

theorem ofText_append_cons {inside : Text} (closes : '>' ∉ inside) (after : Text) :
    ofText (inside ++ '>' :: after) = ⟨inside, after⟩ := by
  rw [ofText, cut_append_cons closes, Option.getD_some]

/-- A page that is written tag by tag is read as these tags. -/
theorem readAll_write {tags : List Tag} (proper : ∀ tag ∈ tags, tag.Proper) :
    readAll (tags.flatMap write) = tags := by
  have plain : ∀ tag ∈ tags, '<' ∉ tag.inside ++ '>' :: tag.after := by
    intro tag member
    obtain ⟨⟨insideOpen, -⟩, afterOpen, -⟩ := proper tag member
    simp [insideOpen, afterOpen]
  have split : pieces '<' (tags.flatMap write) = [] :: tags.map fun tag => tag.inside ++ '>' :: tag.after :=
    pieces_append_flatMap (fun tag : Tag => tag.inside ++ '>' :: tag.after) List.not_mem_nil plain
  rw [readAll, split, List.tail_cons, List.map_map]
  calc tags.map (ofText ∘ fun tag => tag.inside ++ '>' :: tag.after)
    _ = tags.map id :=
      List.map_congr_left fun tag member => ofText_append_cons (proper tag member).1.2 tag.after
    _ = tags := List.map_id tags

/-- The quoted value of the first attribute of a tag. -/
theorem quotedValues_cons {before value : Text} (plain : '"' ∉ before) (closed : '"' ∉ value) (rest : Text) :
    quotedValues (pieces '"' (before ++ '"' :: (value ++ '"' :: rest))) =
      (before, value) :: quotedValues (pieces '"' rest) := by
  rw [pieces_append_cons, pieces_of_notMem plain, pieces_append_cons, pieces_of_notMem closed]
  rfl

/-- A page has as many opening brackets as tags, and as many closing ones. -/
theorem count_write {c : Char} (bracket : c ∈ ['<', '>']) {tags : List Tag}
    (proper : ∀ tag ∈ tags, tag.Proper) : (tags.flatMap write).count c = tags.length := by
  induction tags with
  | nil => rfl
  | cons tag rest ih =>
    obtain ⟨⟨insideOpen, insideClose⟩, afterOpen, afterClose⟩ := proper tag (List.mem_cons_self ..)
    have one : tag.write.count c = 1 := by
      rcases List.mem_cons.mp bracket with rfl | close
      · simp [write, List.count_eq_zero.mpr, insideOpen, afterOpen]
      · obtain rfl := List.mem_singleton.mp close
        simp [write, List.count_eq_zero.mpr, insideClose, afterClose]
    rw [List.flatMap_cons, List.count_append, one,
      ih fun other member => proper other (List.mem_cons_of_mem _ member), List.length_cons, Nat.add_comm]

end Tag

end FillInStory
