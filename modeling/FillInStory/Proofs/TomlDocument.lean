import FillInStory.Toml.Document
import Mathlib.Data.List.Infix

/-! # What may be defined in a document, and what stays defined

A key gets a value if nothing is defined yet on the way to it, and then only the way to it changes
(`Document.exists_define`). So any assignments whose keys begin with distinct names can be made together, in any
order (`Document.exists_defineAll`). Conversely whatever is defined stays: a value is the same afterwards, and
tables are still tables (`Document.KeepsAt`).
-/

namespace FillInStory.Toml

/-- What a line says: the value of a key, which is a name or leads from a name further inside. -/
structure Assignment where
  name : Text
  inner : List Text
  value : Value
  deriving DecidableEq, Repr

def Assignment.keys (a : Assignment) : List Text := a.name :: a.inner

namespace Document

variable {document changed : Document}

/-! ## Making what is not there -/

/-- If nothing is defined on the way along some keys, tables are made there and nothing else changes. -/
theorem exists_enter (document : Document) (here : List Step) (names : List Text)
    (free : ∀ way, way ≠ [] → way <+: names.map Step.key → document.get? (here ++ way) = none) :
    ∃ changed, enter true document here names = some (changed, here ++ names.map Step.key) ∧
      (names ≠ [] → changed.get? (here ++ names.map Step.key) = some (.table .dotted)) ∧
      ∀ path, (∀ way, way ≠ [] → way <+: names.map Step.key → path ≠ here ++ way) →
        changed.get? path = document.get? path := by
  induction names generalizing document here with
  | nil => exact ⟨document, by simp [enter], by simp, fun _ _ => rfl⟩
  | cons name names ih =>
    have here_free := free [.key name] (by simp) (by simp)
    have deeper : ∀ way, way ≠ [] → way <+: names.map Step.key →
        (document.insert (here ++ [.key name]) (.table .dotted)).get? (here ++ [.key name] ++ way) = none := by
      intro way filled along
      rw [Dictionary.get?_insert, if_neg (by simpa using filled), List.append_assoc]
      exact free (.key name :: way) (by simp) (by simpa using along)
    obtain ⟨changed, entered, made, same⟩ := ih _ _ deeper
    have here_same : changed.get? (here ++ [.key name]) =
        (document.insert (here ++ [.key name]) (.table .dotted)).get? (here ++ [.key name]) :=
      same _ fun way filled _ => by simpa using filled
    refine ⟨changed, ?_, fun _ => ?_, fun path off => ?_⟩
    · rw [enter, here_free]
      simpa using entered
    · cases names with
      | nil => rw [List.map_singleton, here_same, Dictionary.get?_insert, if_pos rfl]
      | cons second names => simpa using made (List.cons_ne_nil _ _)
    · rw [same path fun way _ along => ?_, Dictionary.get?_insert, if_neg (off [.key name] (by simp) (by simp)).symm]
      rw [List.append_assoc]
      exact off (.key name :: way) (by simp) (by simpa using along)

/-- A key gets a value if nothing is defined on the way to it, and nothing else changes. -/
theorem exists_define {a : Assignment}
    (free : ∀ way, way ≠ [] → way <+: a.keys.map Step.key → document.get? way = none) :
    ∃ changed, document.define [] a.keys a.value = some changed ∧
      changed.get? (a.keys.map .key) = some (.value a.value) ∧
      ∀ path, ¬ path <+: a.keys.map Step.key → changed.get? path = document.get? path := by
  obtain ⟨front, name, keyed⟩ : ∃ front name, a.keys = front ++ [name] :=
    ⟨_, _, (List.dropLast_append_getLast (List.cons_ne_nil a.name a.inner)).symm⟩
  simp only [keyed, List.map_append, List.map_singleton] at free ⊢
  obtain ⟨entered, found, made, same⟩ := exists_enter document [] front
    fun way filled along => free way filled (along.trans (List.prefix_append _ _))
  rw [List.nil_append] at found made
  have absent : entered.get? (front.map .key ++ [.key name]) = none := by
    rw [same _ fun way _ along equal => ?_]
    · exact free _ (by simp) List.prefix_rfl
    · have longer := along.length_le
      simp only [List.nil_append] at equal
      simp only [← equal, List.length_append, List.length_map, List.length_singleton] at longer
      omega
  refine ⟨entered.insert (front.map .key ++ [.key name]) (.value a.value), ?_, ?_, fun path off => ?_⟩
  · simpa [define, found, absent] using made
  · rw [Dictionary.get?_insert, if_pos rfl]
  · rw [Dictionary.get?_insert, if_neg, same path]
    · rintro way - along rfl
      exact off (along.trans (List.prefix_append _ _))
    · rintro rfl
      exact off List.prefix_rfl

/-! ## Assignments with distinct names -/

/-- Makes assignments one after another outside all tables. -/
def defineAll (document : Document) (assignments : List Assignment) : Option Document :=
  assignments.foldlM (fun document a => document.define [] a.keys a.value) document

/-- Nothing is defined under a name. -/
def Free (document : Document) (name : Text) : Prop := ∀ path, document.get? (.key name :: path) = none

/-- Assignments under free and distinct names can be made together. The names of plain keys have their values
then, and other names have what they had. -/
theorem exists_defineAll (document : Document) {assignments : List Assignment}
    (free : ∀ a ∈ assignments, document.Free a.name) (distinct : (assignments.map Assignment.name).Nodup) :
    ∃ final, document.defineAll assignments = some final ∧
      (∀ a ∈ assignments, a.inner = [] → final.root? a.name = some (.value a.value)) ∧
      ∀ name, name ∉ assignments.map Assignment.name → final.root? name = document.root? name := by
  induction assignments generalizing document with
  | nil => exact ⟨document, rfl, by simp, fun _ _ => rfl⟩
  | cons a assignments ih =>
    obtain ⟨unlisted, distinct⟩ := List.nodup_cons.mp distinct
    have unspoilt : ∀ way, way ≠ [] → way <+: a.keys.map Step.key → document.get? way = none := by
      rintro (- | ⟨step, way⟩) filled along
      · contradiction
      · obtain ⟨rfl, -⟩ := List.cons_prefix_cons.mp along
        exact free a List.mem_cons_self way
    obtain ⟨changed, defined, value, same⟩ := exists_define unspoilt
    have apart {name : Text} (other : name ≠ a.name) (path : List Step) :
        changed.get? (.key name :: path) = document.get? (.key name :: path) := by
      refine same _ fun along => other ?_
      exact Step.key.inj (List.cons_prefix_cons.mp along).1
    have still_free : ∀ b ∈ assignments, changed.Free b.name := by
      intro b member path
      have other : b.name ≠ a.name := fun equal => unlisted (equal ▸ List.mem_map_of_mem member)
      rw [apart other]
      exact free b (List.mem_cons_of_mem _ member) path
    obtain ⟨final, rest, values, others⟩ := ih changed still_free distinct
    refine ⟨final, ?_, ?_, fun name absent => ?_⟩
    · rw [defineAll, List.foldlM_cons, defined]
      exact rest
    · rintro b member plain
      rcases List.mem_cons.mp member with rfl | later
      · rw [others _ unlisted]
        simpa [root?, Assignment.keys, plain] using value
      · exact values b later plain
    · simp only [List.map_cons, List.mem_cons, not_or] at absent
      rw [others name absent.2]
      exact apart absent.1 []

/-! ## What stays -/

end Document

/-- The value that is defined, if it is no table. -/
def Definition.value? : Definition → Option Value
  | .value v => some v
  | _ => none

namespace Document

/-- What is defined at a path is also defined there afterwards: the same value, or still a table. -/
def KeepsAt (path : List Step) (document changed : Document) : Prop :=
  ∀ d, document.get? path = some d → ∃ e, changed.get? path = some e ∧ e.value? = d.value?

variable {document changed : Document} {path here table : List Step}

theorem KeepsAt.refl (path : List Step) (document : Document) : KeepsAt path document document :=
  fun d defined => ⟨d, defined, rfl⟩

theorem KeepsAt.trans {final : Document} (first : KeepsAt path document changed)
    (second : KeepsAt path changed final) : KeepsAt path document final := by
  intro d defined
  obtain ⟨e, defined, same⟩ := first d defined
  obtain ⟨f, defined, again⟩ := second e defined
  exact ⟨f, defined, again.trans same⟩

/-- Defining something at another path keeps what is defined, and so does defining it where nothing is. -/
theorem keepsAt_insert {other : List Step} {new : Definition}
    (fits : other = path → ∀ d, document.get? path = some d → new.value? = d.value?) :
    KeepsAt path document (document.insert other new) := by
  intro d defined
  by_cases same : other = path
  · exact ⟨new, by rw [Dictionary.get?_insert, if_pos same], fits same d defined⟩
  · exact ⟨d, by rw [Dictionary.get?_insert, if_neg same, defined], rfl⟩

theorem keepsAt_insert_of_none {other : List Step} {new : Definition} (absent : document.get? other = none) :
    KeepsAt path document (document.insert other new) :=
  keepsAt_insert fun same d defined => by simp [same ▸ absent] at defined

theorem keepsAt_enter {dotted : Bool} {names : List Text}
    (entered : enter dotted document here names = some (changed, table)) : KeepsAt path document changed := by
  fun_induction enter dotted document here names with
  | case1 =>
    cases entered
    exact .refl path _
  | case2 document here name names path absent ih => exact (keepsAt_insert_of_none absent).trans (ih entered)
  | case3 => cases entered
  | case4 document here name names path count present ih => exact ih entered
  | case5 => cases entered
  | case6 document here name names path origin present enterable ih => exact ih entered

/-- A key gets its value in the table that the keys before its last part lead to, where nothing is yet. -/
theorem exists_of_define {keys : List Text} {v : Value} (defined : document.define here keys v = some changed) :
    ∃ name entered table, keys.getLast? = some name ∧
      enter true document here keys.dropLast = some (entered, table) ∧
      entered.get? (table ++ [.key name]) = none ∧ changed = entered.insert (table ++ [.key name]) (.value v) := by
  unfold define at defined
  split at defined
  · cases defined
  · next name last =>
    obtain ⟨⟨entered, table⟩, found, defined⟩ := Option.bind_eq_some_iff.mp defined
    dsimp only at defined
    split_ifs at defined with accepts
    have absent : entered.get? (table ++ [.key name]) = none := by
      simpa using (Bool.and_eq_true_iff.mp accepts).2
    exact ⟨name, entered, table, last, found, absent, (Option.some.inj defined).symm⟩

theorem keepsAt_define {keys : List Text} {v : Value} (defined : document.define here keys v = some changed) :
    KeepsAt path document changed := by
  obtain ⟨name, entered, table, -, found, absent, rfl⟩ := exists_of_define defined
  exact (keepsAt_enter found).trans (keepsAt_insert_of_none absent)

theorem keepsAt_beginTable {keys : List Text} (begun : document.beginTable keys = some (changed, table)) :
    KeepsAt path document changed := by
  unfold beginTable at begun
  split at begun
  · cases begun
  · next name last =>
    obtain ⟨⟨entered, parent⟩, found, begun⟩ := Option.bind_eq_some_iff.mp begun
    refine (keepsAt_enter found).trans ?_
    dsimp only at begun
    split at begun
    · next absent =>
      cases begun
      exact keepsAt_insert_of_none absent
    · next passed =>
      cases begun
      refine keepsAt_insert fun same d present => ?_
      rw [← same, passed] at present
      cases present
      rfl
    · cases begun

/-- An element of an array of tables is no name outside all tables. -/
theorem keepsAt_beginElement {keys : List Text} {name : Text}
    (begun : document.beginElement keys = some (changed, table)) : KeepsAt [.key name] document changed := by
  unfold beginElement at begun
  split at begun
  · cases begun
  · next last _ =>
    obtain ⟨⟨entered, parent⟩, found, begun⟩ := Option.bind_eq_some_iff.mp begun
    refine (keepsAt_enter found).trans ?_
    dsimp only at begun
    have apart (count : Nat) : parent ++ [.key last] ++ [.element count] ≠ [.key name] := by
      intro same
      have ends := congrArg List.getLast? same
      simp at ends
    split at begun
    · next absent =>
      cases begun
      exact (keepsAt_insert_of_none absent).trans (keepsAt_insert fun same => absurd same (apart _))
    · next count present =>
      cases begun
      refine KeepsAt.trans (keepsAt_insert fun same d defined => ?_)
        (keepsAt_insert fun same => absurd same (apart _))
      rw [← same, present] at defined
      cases defined
      rfl
    · cases begun

/-- The first name on a way becomes a table, if it was not one before. -/
theorem root?_enter {dotted : Bool} {name : Text} {names : List Text}
    (entered : enter dotted document [] (name :: names) = some (changed, table)) :
    ∃ d, changed.root? name = some d ∧ d.value? = none := by
  rw [enter] at entered
  dsimp only [List.nil_append] at entered
  split at entered
  · exact keepsAt_enter entered _ (by rw [Dictionary.get?_insert, if_pos rfl])
  · cases entered
  · next count present => exact keepsAt_enter entered _ present
  · next origin present =>
    split_ifs at entered
    exact keepsAt_enter entered _ present

/-- An assignment defines its value under its name, or a table if its key leads further. -/
theorem root?_define {a : Assignment} (defined : document.define [] a.keys a.value = some changed) :
    ∃ d, changed.root? a.name = some d ∧ d.value? = if a.inner = [] then some a.value else none := by
  obtain ⟨name, inner, v⟩ := a
  obtain ⟨own, entered, table, last, found, absent, rfl⟩ := exists_of_define defined
  cases inner with
  | nil =>
    obtain rfl : name = own := Option.some.inj last
    cases found
    exact ⟨.value v, by rw [root?, List.nil_append, Dictionary.get?_insert, if_pos rfl], rfl⟩
  | cons second inner =>
    obtain ⟨d, present, isTable⟩ := root?_enter found
    obtain ⟨e, present, same⟩ := keepsAt_insert_of_none absent d present
    exact ⟨e, present, same.trans isTable⟩

end Document

end FillInStory.Toml
