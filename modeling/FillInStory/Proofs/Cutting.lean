import FillInStory.Proofs.Substitution

/-! # What substitution does to any text

Also a text that is no template can be told: it is cut at the keys of the field map, and each key goes
where its value comes. A text has exactly one such cutting, although keys may overlap and may hold opening
braces. What decides is only that no opening brace of the rest begins a key, so of overlapping keys the
first one counts. Nothing in the definitions here mentions the substitution.
-/

namespace FillInStory

/-- A text that begins with an opening brace and has a closing brace at its end and nowhere before. -/
def Text.Delimited (k : Text) : Prop := ∃ name : Text, '}' ∉ name ∧ k = braced name

/-- A name between braces can be read off the text that it makes. -/
theorem exists_braced_iff (p : Text → Prop) (k : Text) :
    (∃ name, p name ∧ k = braced name) ↔ p k.tail.dropLast ∧ k = braced k.tail.dropLast := by
  constructor
  · rintro ⟨name, holds, rfl⟩
    have same : (braced name).tail.dropLast = name := List.dropLast_concat
    exact ⟨same.symm ▸ holds, congrArg braced same.symm⟩
  · exact fun ⟨holds, same⟩ => ⟨_, holds, same⟩

instance (k : Text) : Decidable k.Delimited :=
  decidable_of_iff ('}' ∉ k.tail.dropLast ∧ k = braced k.tail.dropLast) (exists_braced_iff ('}' ∉ ·) k).symm

namespace FieldMap

variable (values : FieldMap)

/-- The text up to the first closing brace after an opening brace that `rest` follows, if there is one, is
no key. -/
def Misses (rest : Text) : Prop :=
  ∀ name after : Text, '}' ∉ name → rest = name ++ '}' :: after → braced name ∉ values.keys

/-- No opening brace of a stretch of a text begins a key, in view of what comes after the stretch. -/
def Spares (kept after : Text) : Prop :=
  ∀ before rest : Text, kept = before ++ '{' :: rest → values.Misses (rest ++ after)

end FieldMap

/-- A text that is cut at keys: stretches that are kept, with one key between each and the next. -/
inductive Cutting where
  | last (kept : Text)
  | next (kept key : Text) (rest : Cutting)
  deriving DecidableEq, Repr

namespace Cutting

def write : Cutting → Text
  | .last kept => kept
  | .next kept key rest => kept ++ (key ++ rest.write)

/-- The text with the value of each key in the place of the key. -/
def told (values : FieldMap) : Cutting → Text
  | .last kept => kept
  | .next kept key rest => kept ++ ((values.get? key).getD key ++ rest.told values)

/-- The text is cut at keys that end with their first closing brace, and none of them begins in a stretch
that is kept. -/
def Proper (values : FieldMap) : Cutting → Prop
  | .last kept => values.Spares kept []
  | .next kept key rest =>
    values.Spares kept (key ++ rest.write) ∧ key ∈ values.keys ∧ key.Delimited ∧ rest.Proper values

/-- A cutting of a text at the keys of a field map. -/
structure Cuts (values : FieldMap) (cutting : Cutting) (t : Text) : Prop where
  proper : cutting.Proper values
  written : cutting.write = t

/-- One more character that is kept, in front of the others. -/
def keep (c : Char) : Cutting → Cutting
  | .last kept => .last (c :: kept)
  | .next kept key rest => .next (c :: kept) key rest

@[simp] theorem write_keep (c : Char) (cutting : Cutting) : (cutting.keep c).write = c :: cutting.write := by
  cases cutting <;> rfl

end Cutting

/-- The first closing brace ends a delimited text, so two of them with anything behind them agree. -/
theorem Text.Delimited.append_inj {k j s t : Text} (hk : k.Delimited) (hj : j.Delimited)
    (same : k ++ s = j ++ t) : k = j ∧ s = t := by
  obtain ⟨name, noClose, rfl⟩ := hk
  obtain ⟨other, noClose', rfl⟩ := hj
  obtain ⟨rfl, tails⟩ := Segment.name_unique noClose noClose' (by simpa [braced] using same)
  exact ⟨rfl, tails⟩

namespace FieldMap

variable {values : FieldMap}

theorem hit?_eq_none_iff (rest : Text) : values.hit? rest = none ↔ values.Misses rest := by
  constructor
  · rintro missed name after noClose rfl
    rwa [hit?_name values noClose, Option.map_eq_none_iff, Dictionary.get?_eq_none_iff] at missed
  · intro misses
    rw [Option.eq_none_iff_forall_not_mem]
    rintro ⟨value, after⟩ hit
    obtain ⟨name, noClose, same, found⟩ := (hit?_eq_some_iff values rest value after).mp hit
    exact misses name after noClose same ((values.mem_keys_iff _).mpr ⟨value, found⟩)

instance (rest : Text) : Decidable (values.Misses rest) := decidable_of_iff _ (hit?_eq_none_iff rest)

@[simp] theorem spares_nil (after : Text) : values.Spares [] after := by simp [Spares]

theorem spares_cons_iff (c : Char) (kept after : Text) :
    values.Spares (c :: kept) after ↔ (c = '{' → values.Misses (kept ++ after)) ∧ values.Spares kept after := by
  constructor
  · intro spares
    constructor
    · rintro rfl
      exact spares [] kept rfl
    · intro before rest same
      exact spares (c :: before) rest (congrArg (c :: ·) same)
  · rintro ⟨first, others⟩ before rest same
    cases before with
    | nil =>
      obtain ⟨rfl, rfl⟩ := List.cons.inj same
      exact first rfl
    | cons _ before =>
      obtain ⟨-, tails⟩ := List.cons.inj same
      exact others before rest tails

instance decidableSpares : (kept after : Text) → Decidable (values.Spares kept after)
  | [], after => isTrue (spares_nil after)
  | c :: kept, after =>
    have := decidableSpares kept after
    decidable_of_iff _ (spares_cons_iff c kept after).symm

/-- Where no key begins the text is copied. -/
theorem fill_append_of_spares {kept after : Text} (spares : values.Spares kept after) :
    values.fill (kept ++ after) = kept ++ values.fill after := by
  induction kept with
  | nil => rfl
  | cons c kept ih =>
    obtain ⟨first, others⟩ := (spares_cons_iff c kept after).mp spares
    by_cases opening : c = '{'
    · subst opening
      rw [List.cons_append, fill_of_miss values ((hit?_eq_none_iff _).mpr (first rfl)), ih others,
        List.cons_append]
    · rw [List.cons_append, fill_cons_of_ne values opening, ih others, List.cons_append]

theorem fill_key_append {key : Text} (known : key ∈ values.keys) (delimited : key.Delimited) (rest : Text) :
    values.fill (key ++ rest) = (values.get? key).getD key ++ values.fill rest := by
  obtain ⟨name, noClose, rfl⟩ := delimited
  obtain ⟨value, found⟩ := (values.mem_keys_iff _).mp known
  rw [found, Option.getD_some]
  exact values.fill_braced_append noClose found rest

/-- A key cannot begin in a stretch that is kept, so what stands before it is at least as long. -/
theorem Spares.length_le {kept after before key tail : Text} (spares : values.Spares kept after)
    (known : key ∈ values.keys) (delimited : key.Delimited) (same : kept ++ after = before ++ (key ++ tail)) :
    kept.length ≤ before.length := by
  obtain ⟨name, noClose, rfl⟩ := delimited
  rcases List.append_eq_append_iff.mp same with ⟨inner, rfl, -⟩ | ⟨inner, rfl, keyed⟩
  · simp
  · cases inner with
    | nil => simp
    | cons c inner =>
      obtain ⟨rfl, rest⟩ : '{' = c ∧ name ++ '}' :: tail = inner ++ after := by simpa [braced] using keyed
      exact (spares before inner rfl name tail noClose rest.symm known).elim

/-- A text that ends without a key has none further back. -/
theorem Spares.ne_append_key {kept before key tail : Text} (spares : values.Spares kept [])
    (known : key ∈ values.keys) (delimited : key.Delimited) : kept ≠ before ++ (key ++ tail) := by
  intro same
  have bound := spares.length_le known delimited ((List.append_nil kept).trans same)
  obtain ⟨name, -, rfl⟩ := delimited
  rw [same] at bound
  simp only [braced, List.length_append, List.length_cons] at bound
  omega

end FieldMap

namespace Cutting

variable {values : FieldMap}

instance decidableProper : (cutting : Cutting) → Decidable (cutting.Proper values)
  | .last kept => inferInstanceAs (Decidable (values.Spares kept []))
  | .next kept key rest =>
    have := decidableProper rest
    inferInstanceAs (Decidable (values.Spares kept (key ++ rest.write) ∧ key ∈ values.keys ∧ key.Delimited ∧
      rest.Proper values))

instance (cutting : Cutting) (t : Text) : Decidable (cutting.Cuts values t) :=
  decidable_of_iff (cutting.Proper values ∧ cutting.write = t)
    ⟨fun h => ⟨h.1, h.2⟩, fun h => ⟨h.proper, h.written⟩⟩

/-- One more character can be kept unless it is an opening brace that begins a key. -/
theorem Proper.keep {c : Char} {cutting : Cutting} (proper : cutting.Proper values)
    (misses : c = '{' → values.Misses cutting.write) : (cutting.keep c).Proper values := by
  cases cutting with
  | last kept => exact (FieldMap.spares_cons_iff ..).mpr ⟨by simpa [write] using misses, proper⟩
  | next kept key rest => exact ⟨(FieldMap.spares_cons_iff ..).mpr ⟨misses, proper.1⟩, proper.2⟩

/-- Every text can be cut. -/
theorem exists_cuts (values : FieldMap) (t : Text) : ∃ cutting : Cutting, cutting.Cuts values t := by
  -- the cutting follows the substitution: a hit is a key, and after a miss the character is kept
  fun_induction FieldMap.fill values t with
  | case1 => exact ⟨.last [], FieldMap.spares_nil [], rfl⟩
  | case2 rest value after hit ih =>
    obtain ⟨cutting, proper, written⟩ := ih
    obtain ⟨name, noClose, rfl, found⟩ := (values.hit?_eq_some_iff rest value after).mp hit
    have known : braced name ∈ values.keys := (values.mem_keys_iff _).mpr ⟨value, found⟩
    refine ⟨.next [] (braced name) cutting, ⟨FieldMap.spares_nil _, known, ⟨name, noClose, rfl⟩, proper⟩, ?_⟩
    simp [write, written, braced]
  | case3 rest miss ih =>
    obtain ⟨cutting, proper, rfl⟩ := ih
    exact ⟨cutting.keep '{', proper.keep fun _ => (FieldMap.hit?_eq_none_iff _).mp miss, write_keep ..⟩
  | case4 c rest other ih =>
    obtain ⟨cutting, proper, rfl⟩ := ih
    exact ⟨cutting.keep c, proper.keep fun opening => absurd opening other, write_keep ..⟩

/-- A text can be cut in one way only. -/
theorem Cuts.unique {first second : Cutting} {t : Text} (a : first.Cuts values t) (b : second.Cuts values t) :
    first = second := by
  -- of the first keys of two cuttings none can begin before the other, so they are at the same place
  induction first generalizing second t with
  | last kept =>
    cases second with
    | last kept' => exact congrArg last (a.written.trans b.written.symm)
    | next kept' key' rest' =>
      obtain ⟨-, known, delimited, -⟩ := b.proper
      exact (a.proper.ne_append_key known delimited (a.written.trans b.written.symm)).elim
  | next kept key rest ih =>
    obtain ⟨spares, known, delimited, proper⟩ := a.proper
    cases second with
    | last kept' => exact (b.proper.ne_append_key known delimited (b.written.trans a.written.symm)).elim
    | next kept' key' rest' =>
      obtain ⟨spares', known', delimited', proper'⟩ := b.proper
      have same : kept ++ (key ++ rest.write) = kept' ++ (key' ++ rest'.write) := a.written.trans b.written.symm
      have notLater := spares.length_le known' delimited' same
      have notEarlier := spares'.length_le known delimited same.symm
      obtain ⟨rfl, behind⟩ := List.append_inj same (by omega)
      obtain ⟨rfl, tails⟩ := delimited.append_inj delimited' behind
      exact congrArg (next kept key) (ih ⟨proper, rfl⟩ ⟨proper', tails.symm⟩)

/-- The substitution keeps the stretches between the keys and puts the values in the places of the keys. -/
theorem Proper.fill_write {cutting : Cutting} (proper : cutting.Proper values) :
    values.fill cutting.write = cutting.told values := by
  induction cutting with
  | last kept => simpa [write, told] using FieldMap.fill_append_of_spares proper
  | next kept key rest ih =>
    obtain ⟨spares, known, delimited, others⟩ := proper
    rw [write, told, FieldMap.fill_append_of_spares spares, FieldMap.fill_key_append known delimited, ih others]

end Cutting

/-- Every text has exactly one cutting at the keys of a field map, and substitution tells the text by it: each
key gives way to its value, as it is, and everything else is copied in order. -/
theorem FieldMap.substitute_eq_told (values : FieldMap) (t : Text) :
    ∃ cutting : Cutting, (∀ others : Cutting, others.Cuts values t ↔ others = cutting) ∧
      values.substitute t = cutting.told values := by
  obtain ⟨cutting, cuts⟩ := Cutting.exists_cuts values t
  refine ⟨cutting, fun others => ⟨fun also => also.unique cuts, ?_⟩, ?_⟩
  · rintro rfl
    exact cuts
  · rw [substitute_eq_fill, ← cuts.written, cuts.proper.fill_write]

/-- Of two keys that overlap the first one counts, and an opening brace that begins no key is kept. -/
example : (Cutting.next "\x7bx" "\x7ba{b}" (.last "\x7d")).Cuts
    (Dictionary.ofList [("{b}", "bee"), ("\x7ba{b}", "sea")]) "\x7bx{a{b}}" := by decide

end FillInStory
