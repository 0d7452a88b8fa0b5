import FillInStory.Toml.Parser
import Mathlib.Data.List.TakeWhile

/-! # What is read of a line does not depend on the lines behind it

A number, a date or a bare key ends before a line end at the latest, and whether there is one is decided before
it: reading them is the same whether the text ends there or goes on with another line. A string, an array or an
inline table may run over lines, but it is closed where it ends. So what the readers of keys and values take
from a text they take also when a line end and any text follow, which they leave (`LeavesLines`). This goes from
the digits of a number up to values nested to any depth (`leavesLines_readValue`), by induction on the depth.
-/

namespace FillInStory.Toml

variable {t more : Text}

/-! ## Readers that a line end stops -/

/-- What does not begin a text, and has no line end, does not begin it with the lines behind it either. -/
theorem append_newline_ne (start : Text) (inLine : '\n' ∉ start) (other : ∀ line, t ≠ start ++ line)
    (rest : Text) : t ++ '\n' :: more ≠ start ++ rest := by
  intro same
  rcases List.append_eq_append_iff.mp same with ⟨others, rfl, ends⟩ | ⟨line, found, -⟩
  · cases others with
    | nil => exact other [] (by simp)
    | cons c others =>
      obtain ⟨rfl, -⟩ := List.cons.inj ends
      simp at inLine
  · exact other line found

theorem dropWhile_append_newline {p : Char → Bool} (stops : p '\n' = false) (t more : Text) :
    (t ++ '\n' :: more).dropWhile p = t.dropWhile p ++ '\n' :: more := by
  rw [List.dropWhile_append]
  split_ifs with passed
  · rw [List.isEmpty_iff.mp passed, List.dropWhile_cons_of_neg (by simp [stops]), List.nil_append]
  · rfl

theorem takeWhile_append_newline {p : Char → Bool} (stops : p '\n' = false) (t more : Text) :
    (t ++ '\n' :: more).takeWhile p = t.takeWhile p := by
  induction t with
  | nil => simp [stops]
  | cons c t ih => by_cases passes : p c <;> simp [passes, ih]

@[simp] theorem skipSpace_append_newline (t more : Text) :
    skipSpace (t ++ '\n' :: more) = skipSpace t ++ '\n' :: more := dropWhile_append_newline rfl t more

/-- The text after a character is left over with what follows it. -/
@[simp] theorem afterChar_append_newline {c : Char} (other : c ≠ '\n') (t more : Text) :
    afterChar c (t ++ '\n' :: more) = (afterChar c t).map (· ++ '\n' :: more) := by
  cases t with
  | nil => simp [afterChar, Ne.symm other]
  | cons d rest => by_cases same : d = c <;> simp [afterChar, same]

/-! ### Numbers -/

theorem spanDigits_cons {isDigit : Char → Bool} {c : Char} (digit : isDigit c) (rest : Text) :
    spanDigits isDigit (c :: rest) = (c :: (spanDigits isDigit rest).1, (spanDigits isDigit rest).2) := by
  rw [spanDigits.eq_def]
  exact if_pos digit

theorem spanDigits_append_newline {isDigit : Char → Bool} (stops : isDigit '\n' = false) (t more : Text) :
    spanDigits isDigit (t ++ '\n' :: more) =
      ((spanDigits isDigit t).1, (spanDigits isDigit t).2 ++ '\n' :: more) := by
  fun_induction spanDigits isDigit t with
  | case1 => cases more <;> simp [spanDigits, stops]
  | case2 c rest digit digits after read ih => rw [List.cons_append, spanDigits_cons digit, ih, read]
  | case3 c noDigit d others under digits after read ih => simp_all [spanDigits]
  | case4 c noDigit d others other => simp_all [spanDigits]
  | case5 c noDigit => simp [spanDigits, noDigit, stops]

@[simp] theorem digits?_append_newline {isDigit : Char → Bool} (stops : isDigit '\n' = false) (t more : Text) :
    digits? isDigit (t ++ '\n' :: more) =
      (digits? isDigit t).map fun (digits, rest) => (digits, rest ++ '\n' :: more) := by
  unfold digits?
  rw [spanDigits_append_newline stops]
  cases t with
  | nil => simp [stops]
  | cons c rest => by_cases digit : isDigit c <;> simp [digit]

@[simp] theorem basedInteger_append_newline (base : Nat) (t more : Text) :
    basedInteger base (t ++ '\n' :: more) =
      (basedInteger base t).map fun (v, rest) => (v, rest ++ '\n' :: more) := by
  unfold basedInteger
  rw [digits?_append_newline rfl]
  cases digits? (fun c => (Json.hexDigit? c).any (· < base)) t with
  | none => rfl
  | some read => by_cases small : valueInBase base read.1 ≤ integerLimit <;> simp [small]

@[simp] theorem readSign_append_newline (t more : Text) :
    readSign (t ++ '\n' :: more) = ((readSign t).1, (readSign t).2 ++ '\n' :: more) := by
  rcases t with - | ⟨c, rest⟩
  · simp [readSign]
  · by_cases minus : c = '-' <;> by_cases plus : c = '+' <;> simp_all [readSign]

@[simp] theorem wholePart_append_newline (t more : Text) :
    wholePart (t ++ '\n' :: more) = (wholePart t).map fun (digits, rest) => (digits, rest ++ '\n' :: more) := by
  rcases t with - | ⟨c, rest⟩
  · simp [wholePart, digits?]
  · by_cases zero : c = '0'
    · simp [wholePart, zero]
    · have digits : digits? Char.isDigit (c :: rest ++ '\n' :: more) = _ := digits?_append_newline rfl _ more
      simpa [wholePart, zero] using digits

@[simp] theorem fractionPart_append_newline (t more : Text) :
    fractionPart (t ++ '\n' :: more) =
      (fractionPart t).map fun (digits, rest) => (digits, rest ++ '\n' :: more) := by
  rcases t with - | ⟨c, rest⟩
  · simp [fractionPart]
  · by_cases point : c = '.' <;> simp [fractionPart, point, digits?_append_newline]

@[simp] theorem exponentPart_append_newline (t more : Text) :
    exponentPart (t ++ '\n' :: more) = (exponentPart t).map fun (n, rest) => (n, rest ++ '\n' :: more) := by
  rcases t with - | ⟨c, rest⟩
  · rfl
  · by_cases mark : c = 'e' ∨ c = 'E'
    · simp only [exponentPart, List.cons_append, Bool.or_eq_true, decide_eq_true_eq, mark, ↓reduceIte,
        readSign_append_newline, Char.reduceIsDigit, digits?_append_newline, Option.bind_eq_bind, Option.bind_map,
        Function.comp_def, Option.map_bind, Option.map_some]
    · simp [exponentPart, mark]

@[simp] theorem floatAfter_append_newline (minus : Bool) (whole t more : Text) :
    floatAfter minus whole (t ++ '\n' :: more) =
      (floatAfter minus whole t).map fun (v, rest) => (v, rest ++ '\n' :: more) := by
  unfold floatAfter
  rw [fractionPart_append_newline, exponentPart_append_newline]
  cases fractionPart t with
  | some read =>
    simp only [Option.map_some, exponentPart_append_newline]
    cases exponentPart read.2 <;>
      simp only [Option.map_none, Option.map_some, Option.getD_none, Option.getD_some] <;> split_ifs <;> rfl
  | none =>
    cases exponentPart t with
    | none => rfl
    | some read =>
      simp only [Option.map_none, Option.map_some]
      split_ifs <;> rfl

@[simp] theorem decimalNumber_append_newline (minus : Bool) (t more : Text) :
    decimalNumber minus (t ++ '\n' :: more) =
      (decimalNumber minus t).map fun (v, rest) => (v, rest ++ '\n' :: more) := by
  fun_cases decimalNumber minus t with
  | case1 rest => rfl
  | case2 rest => rfl
  | case3 _ noInf noNan =>
    rw [decimalNumber]
    · rw [wholePart_append_newline]
      cases wholePart t with
      | none => rfl
      | some read =>
        simp only [Option.map_some, Option.bind_eq_bind, Option.bind_some, fractionPart_append_newline,
          exponentPart_append_newline, floatAfter_append_newline, Option.isSome_map]
        split_ifs <;> rfl
    · exact append_newline_ne ['i', 'n', 'f'] (by decide) noInf
    · exact append_newline_ne ['n', 'a', 'n'] (by decide) noNan

@[simp] theorem readNumber_append_newline (t more : Text) :
    readNumber (t ++ '\n' :: more) = (readNumber t).map fun (v, rest) => (v, rest ++ '\n' :: more) := by
  fun_cases readNumber t with
  | case1 rest => exact basedInteger_append_newline 16 rest more
  | case2 rest => exact basedInteger_append_newline 8 rest more
  | case3 rest => exact basedInteger_append_newline 2 rest more
  | case4 _ noHex noOctal noBinary =>
    rw [readNumber]
    · rw [readSign_append_newline, decimalNumber_append_newline]
    · exact append_newline_ne ['0', 'x'] (by decide) noHex
    · exact append_newline_ne ['0', 'o'] (by decide) noOctal
    · exact append_newline_ne ['0', 'b'] (by decide) noBinary

/-! ### Dates and times -/

@[simp] theorem twoDigits_append_newline (low high : Nat) (t more : Text) :
    twoDigits low high (t ++ '\n' :: more) =
      (twoDigits low high t).map fun (n, rest) => (n, rest ++ '\n' :: more) := by
  rcases t with - | ⟨a, - | ⟨b, rest⟩⟩
  · cases more <;> simp [twoDigits]
  · simp [twoDigits]
  · simp only [List.cons_append, twoDigits]
    split_ifs <;> rfl

@[simp] theorem afterDate_append_newline (t more : Text) :
    afterDate (t ++ '\n' :: more) = (afterDate t).map (· ++ '\n' :: more) := by
  fun_cases afterDate t with
  | case1 a b c d rest digits =>
    simp only [afterDate, List.cons_append, digits, ↓reduceIte, twoDigits_append_newline, Option.bind_eq_bind,
      Option.bind_map, Function.comp_def, ne_eq, Char.reduceEq, not_false_eq_true, afterChar_append_newline,
      Option.map_bind, Option.map_some]
  | case2 a b c d rest noDigits => simp [afterDate, noDigits]
  | case3 _ other =>
    unfold afterDate
    split
    · next a b c d rest same =>
      have noDigits : ¬ [a, b, c, d].all Char.isDigit := by
        intro digits
        refine append_newline_ne [a, b, c, d, '-'] (fun member => ?_) (fun line => other a b c d line) rest same
        rcases List.mem_append.mp (show '\n' ∈ [a, b, c, d] ++ ['-'] from member) with digit | dash
        · exact absurd (List.all_eq_true.mp digits _ digit) (by decide)
        · exact absurd dash (by decide)
      rw [if_neg noDigits]
      rfl
    · rfl

@[simp] theorem afterSecondFraction_append_newline (t more : Text) :
    afterSecondFraction (t ++ '\n' :: more) = afterSecondFraction t ++ '\n' :: more := by
  rcases t with - | ⟨point, - | ⟨c, rest⟩⟩
  · simp [afterSecondFraction]
  · by_cases fraction : point = '.' <;> simp [afterSecondFraction, fraction]
  · by_cases fraction : point = '.'
    · subst fraction
      simp only [List.cons_append, afterSecondFraction]
      split_ifs
      · exact dropWhile_append_newline rfl rest more
      · rfl
    · simp [afterSecondFraction, fraction]

@[simp] theorem afterTime_append_newline (t more : Text) :
    afterTime (t ++ '\n' :: more) = (afterTime t).map (· ++ '\n' :: more) := by
  simp only [afterTime, twoDigits_append_newline, Option.bind_eq_bind, Option.bind_map, Function.comp_def, ne_eq,
    Char.reduceEq, not_false_eq_true, afterChar_append_newline, afterSecondFraction_append_newline, Option.map_bind,
    Option.map_some]

@[simp] theorem afterOffset_append_newline (t more : Text) :
    afterOffset (t ++ '\n' :: more) = afterOffset t ++ '\n' :: more := by
  cases t with
  | nil => simp [afterOffset]
  | cons c rest =>
    simp only [List.cons_append, afterOffset]
    split_ifs
    · rfl
    · refine Eq.trans ?_ (Option.getD_map (· ++ '\n' :: more) (c :: rest) _)
      simp only [twoDigits_append_newline, Option.bind_eq_bind, Option.bind_map, Function.comp_def, ne_eq,
        Char.reduceEq, not_false_eq_true, afterChar_append_newline, Option.map_bind, Option.map_some,
        List.cons_append]
    · rfl

/-- A date and a time end before a line end. -/
@[simp] theorem afterDateTime_append_newline (t more : Text) :
    afterDateTime (t ++ '\n' :: more) = (afterDateTime t).map (· ++ '\n' :: more) := by
  unfold afterDateTime
  rw [afterDate_append_newline, afterTime_append_newline]
  rcases afterDate t with - | - | ⟨c, rest⟩
  · rfl
  · rfl
  · simp only [Option.map_some, List.cons_append, afterTime_append_newline]
    split_ifs
    · cases afterTime rest with
      | none => rfl
      | some rest => simp [afterOffset_append_newline]
    · rfl

/-! ## Readers that leave further lines -/

/-- What a reader takes from the start of a text it takes also if a line end and any text follow, which it
leaves. -/
def LeavesLines {α : Type} (read : Text → Option (α × Text)) : Prop :=
  ∀ ⦃t : Text⦄ ⦃a : α⦄ ⦃rest : Text⦄, read t = some (a, rest) →
    ∀ more, read (t ++ '\n' :: more) = some (a, rest ++ '\n' :: more)

/-! ### Strings -/

theorem untilQuote_append {inside rest : Text} (read : untilQuote t = some (inside, rest)) (more : Text) :
    untilQuote (t ++ more) = some (inside, rest ++ more) := by
  fun_induction untilQuote t generalizing inside rest with
  | case1 => cases read
  | case2 => simp_all [untilQuote]
  | case3 c t ih =>
    obtain ⟨found, first, same⟩ := Option.map_eq_some_iff.mp read
    cases same
    simp [untilQuote, ih first]
  | case4 c t noQuote noEscape ih =>
    obtain ⟨found, first, same⟩ := Option.map_eq_some_iff.mp read
    cases same
    cases t with
    | nil => cases first
    | cons d t =>
      rw [List.cons_append, untilQuote, ih first]
      · rfl
      · exact noQuote
      · exact fun _ _ backslash _ => noEscape d t backslash rfl

theorem leavesLines_basicString : LeavesLines basicString := by
  intro t s rest read more
  unfold basicString at read ⊢
  obtain ⟨⟨inside, after⟩, found, read⟩ := Option.bind_eq_some_iff.mp read
  obtain ⟨value, unescaped, same⟩ := Option.bind_eq_some_iff.mp read
  cases same
  simp [untilQuote_append found, unescaped]

theorem leavesLines_literalString : LeavesLines literalString := by
  intro t s rest read more
  unfold literalString at read ⊢
  rw [List.dropWhile_append, List.takeWhile_append]
  split at read
  · cases read
  · next c after found =>
    have parts := congrArg List.length (List.takeWhile_append_dropWhile (p := (· != '\'')) (l := t))
    rw [found, List.length_append, List.length_cons] at parts
    have shorter : (t.takeWhile (· != '\'')).length ≠ t.length := by omega
    rw [found, if_neg (by simp), if_neg shorter]
    simpa using read

/-- The delimiters that belong to a string before its end are none of the lines behind it. -/
theorem takeWhile_take_append_newline {delimiter : Char} (visible : delimiter ≠ '\n') (n : Nat) (t more : Text) :
    ((t ++ '\n' :: more).take n).takeWhile (· = delimiter) = (t.take n).takeWhile (· = delimiter) := by
  induction t generalizing n with
  | nil => cases n <;> simp [Ne.symm visible]
  | cons c t ih =>
    cases n with
    | zero => rfl
    | succ n => by_cases same : c = delimiter <;> simp [same, ih n]

/-- Three delimiters are found before the lines behind them, as no line end is a delimiter. -/
theorem untilTriple_append_newline {delimiter : Char} (visible : delimiter ≠ '\n') {escapes : Bool}
    {inside rest : Text} (read : untilTriple delimiter escapes t = some (inside, rest)) (more : Text) :
    untilTriple delimiter escapes (t ++ '\n' :: more) = some (inside, rest ++ '\n' :: more) := by
  fun_induction untilTriple delimiter escapes t generalizing inside rest with
  | case1 c d e t triple =>
    cases read
    have within : ((t.take 2).takeWhile (· = delimiter)).length ≤ t.length :=
      (List.takeWhile_sublist _).length_le.trans (List.length_take_le' 2 t)
    simp only [List.cons_append, untilTriple, triple, if_true, takeWhile_take_append_newline visible,
      List.drop_append_of_le_length within]
    rfl
  | case2 c d e t noTriple escape ih =>
    obtain ⟨found, first, same⟩ := Option.map_eq_some_iff.mp read
    cases same
    rw [List.cons_append] at ih
    simp [untilTriple, noTriple, escape, ih first]
  | case3 c d e t noTriple noEscape ih =>
    obtain ⟨found, first, same⟩ := Option.map_eq_some_iff.mp read
    cases same
    rw [List.cons_append, List.cons_append] at ih
    simp [untilTriple, noTriple, noEscape, ih first]
  | case4 => cases read

/-- A text that closes a string is not so short that a line end behind it could change how it begins. -/
theorem untilTriple_afterLineEnd_append_newline {delimiter : Char} (visible : delimiter ≠ '\n') {escapes : Bool}
    {inside rest : Text}
    (read : untilTriple delimiter escapes ((afterLineEnd? t).getD t) = some (inside, rest)) (more : Text) :
    untilTriple delimiter escapes ((afterLineEnd? (t ++ '\n' :: more)).getD (t ++ '\n' :: more)) =
      some (inside, rest ++ '\n' :: more) := by
  rcases t with - | ⟨c, - | ⟨d, t⟩⟩
  · cases read
  · by_cases ends : c = '\n' <;> simp [afterLineEnd?, ends, untilTriple] at read
  · have begins : afterLineEnd? (c :: d :: t ++ '\n' :: more) =
        (afterLineEnd? (c :: d :: t)).map (· ++ '\n' :: more) := by
      unfold afterLineEnd?
      split <;> simp_all
    rw [begins, Option.getD_map (· ++ '\n' :: more)]
    exact untilTriple_append_newline visible read more

theorem leavesLines_readString : LeavesLines readString := by
  intro t s rest read more
  revert read
  fun_cases readString t with
  | case1 t =>
    intro read
    obtain ⟨⟨inside, after⟩, found, read⟩ := Option.bind_eq_some_iff.mp read
    obtain ⟨value, unescaped, same⟩ := Option.bind_eq_some_iff.mp read
    cases same
    simp [readString, untilTriple_afterLineEnd_append_newline (by decide) found, unescaped]
  | case2 t noTriple =>
    intro read
    rw [List.cons_append, readString]
    · exact leavesLines_basicString read more
    · exact append_newline_ne ['"', '"'] (by decide) noTriple
  | case3 t =>
    intro read
    obtain ⟨⟨inside, after⟩, found, read⟩ := Option.bind_eq_some_iff.mp read
    obtain ⟨value, plain, same⟩ := Option.bind_eq_some_iff.mp read
    cases same
    simp [readString, untilTriple_afterLineEnd_append_newline (by decide) found, plain]
  | case4 t noTriple =>
    intro read
    rw [List.cons_append, readString]
    · exact leavesLines_literalString read more
    · exact append_newline_ne ['\'', '\''] (by decide) noTriple
  | case5 => exact nofun

/-! ### Keys -/

theorem leavesLines_simpleKey : LeavesLines simpleKey := by
  intro t part rest read more
  revert read
  fun_cases simpleKey t with
  | case1 t =>
    intro read
    exact leavesLines_basicString read more
  | case2 t =>
    intro read
    exact leavesLines_literalString read more
  | case3 _ noBasic noLiteral bare =>
    intro read
    cases read
    rw [simpleKey]
    · have first : (t ++ '\n' :: more).head?.any isBareChar := by
        cases t with
        | nil => simp at bare
        | cons c t => exact bare
      rw [if_pos first, takeWhile_append_newline rfl, dropWhile_append_newline rfl]
    · exact append_newline_ne ['"'] (by decide) noBasic
    · exact append_newline_ne ['\''] (by decide) noLiteral
  | case4 => exact nofun

/-- The parts of a key are read also with more fuel. -/
theorem keyParts_append_newline {fuel enough : Nat} {parts : List Text} {rest : Text}
    (read : keyParts fuel t = some (parts, rest)) (within : fuel ≤ enough) (more : Text) :
    keyParts enough (t ++ '\n' :: more) = some (parts, rest ++ '\n' :: more) := by
  induction fuel generalizing t parts rest enough with
  | zero => cases read
  | succ fuel ih =>
    obtain ⟨larger, rfl⟩ := Nat.exists_eq_add_of_lt within
    rw [keyParts] at read ⊢
    obtain ⟨⟨part, after⟩, first, read⟩ := Option.bind_eq_some_iff.mp read
    simp only [skipSpace_append_newline, leavesLines_simpleKey first more, Option.bind_eq_bind, Option.bind_some]
    dsimp only at read
    split at read
    · next others point =>
      obtain ⟨⟨later, after⟩, found, same⟩ := Option.map_eq_some_iff.mp read
      cases same
      simp only [point, List.cons_append]
      rw [ih found (by omega)]
      rfl
    · next noPoint =>
      cases read
      split
      · next others same => exact absurd same (append_newline_ne ['.'] (by decide) noPoint others)
      · rfl

theorem leavesLines_readKey : LeavesLines readKey := by
  intro t parts rest read more
  unfold readKey at read ⊢
  obtain ⟨found, few⟩ := Option.filter_eq_some_iff.mp read
  rw [keyParts_append_newline found (by simp) more]
  simpa using few

/-! ### Values -/

/-- What stands after line ends and comments stands there with more lines behind it, unless it is a carriage
return, which might belong to the first of them. -/
theorem skipLines_append_newline {comment : Bool} {c : Char} {rest : Text}
    (read : skipLines comment t = some (c :: rest)) (visible : c ≠ '\r') (more : Text) :
    skipLines comment (t ++ '\n' :: more) = some (c :: (rest ++ '\n' :: more)) := by
  fun_induction skipLines comment t with
  | case1 => cases read
  | case2 comment t ih => simpa [skipLines] using ih read
  | case3 comment t ih => simpa [skipLines] using ih read
  | case4 d t noEnd noReturn ordinary ih =>
    have noReturn : d ≠ '\r' := by
      rintro rfl
      cases ordinary
    rw [List.cons_append, skipLines, if_pos ordinary, ih read]
    · exact noEnd
    · exact fun _ carriage _ => noReturn carriage
  | case5 => cases read
  | case6 d t noEnd noReturn blank ih =>
    have noReturn : d ≠ '\r' := by
      rintro rfl
      cases blank
    rw [List.cons_append, skipLines, if_pos blank, ih read]
    · exact noEnd
    · exact fun _ carriage _ => noReturn carriage
  | case7 t noEnd noReturn noBlank ih =>
    rw [List.cons_append, skipLines, if_neg noBlank, if_pos rfl, ih read]
    · exact noEnd
    · exact fun _ carriage _ => absurd carriage (by decide)
  | case8 d t noEnd noReturn noBlank noComment =>
    cases read
    rw [List.cons_append, skipLines, if_neg noBlank, if_neg noComment]
    · exact noEnd
    · exact fun _ carriage _ => visible carriage

/-- A reader of items finds none at the end of a text, and none before a carriage return. -/
structure NeedsItem (item : Text → Option (Value × Text)) : Prop where
  atEnd : item [] = none
  atReturn : ∀ rest, item ('\r' :: rest) = none

/-- An array is closed where it ends: more lines, and more fuel, do not change where that is. -/
theorem arrayRest_append_newline {item : Text → Option (Value × Text)} (leaves : LeavesLines item)
    (needs : NeedsItem item) {fuel enough : Nat} {rest : Text} (read : arrayRest item fuel t = some rest)
    (within : fuel ≤ enough) (more : Text) :
    arrayRest item enough (t ++ '\n' :: more) = some (rest ++ '\n' :: more) := by
  induction fuel generalizing t enough with
  | zero => cases read
  | succ fuel ih =>
    obtain ⟨larger, rfl⟩ := Nat.exists_eq_add_of_lt within
    rw [arrayRest] at read ⊢
    obtain ⟨start, first, read⟩ := Option.bind_eq_some_iff.mp read
    dsimp only at read
    split at read
    · next after =>
      cases read
      simp [skipLines_append_newline first (by decide)]
    · next noEnd =>
      obtain ⟨⟨v, after⟩, itemRead, read⟩ := Option.bind_eq_some_iff.mp read
      obtain ⟨next, second, read⟩ := Option.bind_eq_some_iff.mp read
      have started : skipLines false (t ++ '\n' :: more) = some (start ++ '\n' :: more) := by
        cases start with
        | nil => exact absurd itemRead (by simp [needs.atEnd])
        | cons c start =>
          refine skipLines_append_newline first ?_ more
          rintro rfl
          exact absurd itemRead (by simp [needs.atReturn])
      simp only [started, Option.bind_eq_bind, Option.bind_some]
      split
      · next others same => exact absurd same (append_newline_ne [']'] (by decide) noEnd others)
      · rw [leaves itemRead more, Option.bind_some]
        dsimp only at read ⊢
        split at read
        · next others =>
          rw [skipLines_append_newline second (by decide)]
          exact ih read (by omega)
        · next others =>
          cases read
          rw [skipLines_append_newline second (by decide)]
          rfl
        · cases read

/-- An inline table is closed where it ends: more lines, and more fuel, do not change where that is. -/
theorem inlineRest_append_newline {item : Text → Option (Value × Text)} (leaves : LeavesLines item)
    {fuel enough : Nat} {defined : Document} {rest : Text}
    (read : inlineRest item fuel defined t = some rest) (within : fuel ≤ enough) (more : Text) :
    inlineRest item enough defined (t ++ '\n' :: more) = some (rest ++ '\n' :: more) := by
  induction fuel generalizing t enough defined with
  | zero => cases read
  | succ fuel ih =>
    obtain ⟨larger, rfl⟩ := Nat.exists_eq_add_of_lt within
    rw [inlineRest] at read ⊢
    obtain ⟨⟨keys, afterKey⟩, keyRead, read⟩ := Option.bind_eq_some_iff.mp read
    obtain ⟨afterEquals, equals, read⟩ := Option.bind_eq_some_iff.mp read
    obtain ⟨⟨v, afterValue⟩, itemRead, read⟩ := Option.bind_eq_some_iff.mp read
    obtain ⟨next, definable, read⟩ := Option.bind_eq_some_iff.mp read
    simp only [leavesLines_readKey keyRead more, afterChar_append_newline, equals, skipSpace_append_newline,
      leaves itemRead more, definable, ne_eq, Char.reduceEq, not_false_eq_true, Option.map_some,
      Option.bind_eq_bind, Option.bind_some]
    split at read
    · next others comma =>
      rw [comma]
      exact ih read (by omega)
    · next others brace =>
      cases read
      rw [brace]
      rfl
    · cases read

/-- Reading a value finds none at the end of a text, and none before a carriage return. -/
theorem needsItem_readValue (limit : Nat) : NeedsItem (readValue limit) := by
  cases limit with
  | zero => exact ⟨rfl, fun _ => rfl⟩
  | succ limit =>
    refine ⟨rfl, fun rest => ?_⟩
    have noDate : afterDate ('\r' :: rest) = none := by
      unfold afterDate
      split
      · next a b c d others same =>
        obtain ⟨rfl, -⟩ := List.cons.inj same
        rfl
      · rfl
    have noTime : afterTime ('\r' :: rest) = none := by cases rest <;> rfl
    have noNumber : readNumber ('\r' :: rest) = none := by rfl
    have noDateTime : afterDateTime ('\r' :: rest) = none := by rw [afterDateTime, noDate, noTime]
    rw [readValue, noDateTime, noNumber] <;> exact nofun

/-- A value is read up to where it ends, whatever lines stand behind it. -/
theorem leavesLines_readValue (limit : Nat) : LeavesLines (readValue limit) := by
  induction limit with
  | zero => exact nofun
  | succ limit ih =>
    intro t v rest read more
    unfold readValue at read
    split at read
    · cases read
      rfl
    · cases read
      rfl
    · next inside =>
      split_ifs at read with deepest
      obtain ⟨after, closed, same⟩ := Option.map_eq_some_iff.mp read
      cases same
      have longer : inside.length + 1 ≤ (inside ++ '\n' :: more).length + 1 := by simp
      rw [List.cons_append, readValue, if_neg deepest,
        arrayRest_append_newline ih (needsItem_readValue limit) closed longer]
      rfl
    · next inside =>
      split_ifs at read with deepest
      rw [List.cons_append, readValue, if_neg deepest, skipSpace_append_newline]
      split at read
      · next after brace =>
        cases read
        rw [brace]
        rfl
      · next noBrace =>
        obtain ⟨after, closed, same⟩ := Option.map_eq_some_iff.mp read
        cases same
        have longer : inside.length + 1 ≤ (inside ++ '\n' :: more).length + 1 := by simp
        split
        · next others same => exact absurd same (append_newline_ne ['}'] (by decide) noBrace others)
        · rw [inlineRest_append_newline ih closed longer]
          rfl
    · next inside =>
      obtain ⟨⟨s, after⟩, string, same⟩ := Option.map_eq_some_iff.mp read
      cases same
      rw [List.cons_append, readValue, ← List.cons_append, leavesLines_readString string]
      rfl
    · next inside =>
      obtain ⟨⟨s, after⟩, string, same⟩ := Option.map_eq_some_iff.mp read
      cases same
      rw [List.cons_append, readValue, ← List.cons_append, leavesLines_readString string]
      rfl
    · next noTrue noFalse noArray noTable noBasic noLiteral =>
      rw [readValue]
      · rw [afterDateTime_append_newline, readNumber_append_newline]
        cases date : afterDateTime t with
        | some after =>
          rw [date] at read
          cases read
          rfl
        | none =>
          rw [date] at read
          simp only at read
          rw [read]
          rfl
      · exact append_newline_ne ['t', 'r', 'u', 'e'] (by decide) noTrue
      · exact append_newline_ne ['f', 'a', 'l', 's', 'e'] (by decide) noFalse
      · exact append_newline_ne ['['] (by decide) noArray
      · exact append_newline_ne ['{'] (by decide) noTable
      · exact append_newline_ne ['"'] (by decide) noBasic
      · exact append_newline_ne ['\''] (by decide) noLiteral

end FillInStory.Toml
