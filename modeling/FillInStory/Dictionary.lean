/-! # Dictionaries

A dictionary gives each of its finitely many keys one value. Its entries stand in the order in which
their keys were first put in, and two dictionaries with the same entries in another order answer every
look-up alike (`get?_eq_of_perm`).
-/

namespace FillInStory

/-- A finite map, as a list of entries with distinct keys. -/
@[ext]
structure Dictionary (κ α : Type) where
  entries : List (κ × α)
  nodup_keys : (entries.map Prod.fst).Nodup

namespace Dictionary

variable {κ α β : Type}

def keys (m : Dictionary κ α) : List κ := m.entries.map Prod.fst

def empty : Dictionary κ α := ⟨[], List.nodup_nil⟩

instance : EmptyCollection (Dictionary κ α) := ⟨empty⟩

instance : Inhabited (Dictionary κ α) := ⟨empty⟩

def isEmpty (m : Dictionary κ α) : Bool := m.entries.isEmpty

def filter (keep : κ → α → Bool) (m : Dictionary κ α) : Dictionary κ α where
  entries := m.entries.filter fun entry => keep entry.1 entry.2
  nodup_keys := (List.filter_sublist.map Prod.fst).nodup m.nodup_keys

theorem keys_filter_subset (m : Dictionary κ α) (keep : κ → α → Bool) : (m.filter keep).keys ⊆ m.keys :=
  (List.filter_sublist.map Prod.fst).subset

variable [DecidableEq κ]

def find? (k : κ) : List (κ × α) → Option α
  | [] => none
  | entry :: rest => if entry.1 = k then some entry.2 else find? k rest

def get? (m : Dictionary κ α) (k : κ) : Option α := find? k m.entries

def contains (m : Dictionary κ α) (k : κ) : Bool := (m.get? k).isSome

/-- Gives a key a value in a list of entries, at the place of the key's entry or else at the end. -/
def put (k : κ) (v : α) : List (κ × α) → List (κ × α)
  | [] => [(k, v)]
  | entry :: rest => if entry.1 = k then (k, v) :: rest else entry :: put k v rest

theorem map_fst_put (k : κ) (v : α) (entries : List (κ × α)) :
    (put k v entries).map Prod.fst =
      if k ∈ entries.map Prod.fst then entries.map Prod.fst else entries.map Prod.fst ++ [k] := by
  induction entries with
  | nil => simp [put]
  | cons entry rest ih =>
    by_cases same : entry.1 = k
    · simp [put, same]
    · have other : ¬ k = entry.1 := fun h => same h.symm
      simp only [put, same, if_false, List.map_cons, ih, List.mem_cons, other, false_or]
      split <;> simp

/-- Gives a key a value, in the place of the value that it had. -/
def insert (m : Dictionary κ α) (k : κ) (v : α) : Dictionary κ α where
  entries := put k v m.entries
  nodup_keys := by
    rw [map_fst_put]
    split
    · exact m.nodup_keys
    · next absent =>
      rw [List.nodup_append]
      exact ⟨m.nodup_keys, by simp, fun a present b other => by
        rw [List.mem_singleton] at other
        rintro rfl
        exact absent (other ▸ present)⟩

/-- The dictionary of a list of entries; of several entries with one key the last counts. -/
def ofList (entries : List (κ × α)) : Dictionary κ α :=
  entries.foldl (fun m entry => m.insert entry.1 entry.2) empty

@[simp] theorem get?_empty (k : κ) : (empty : Dictionary κ α).get? k = none := rfl

theorem find?_put (k j : κ) (v : α) (entries : List (κ × α)) :
    find? j (put k v entries) = if k = j then some v else find? j entries := by
  induction entries with
  | nil => simp [put, find?]
  | cons entry rest ih =>
    by_cases same : entry.1 = k
    · subst same
      by_cases wanted : entry.1 = j <;> simp [put, find?, wanted]
    · by_cases wanted : entry.1 = j
      · subst wanted
        have other : ¬ k = entry.1 := fun h => same h.symm
        simp [put, find?, same, other]
      · simp [put, find?, same, wanted, ih]

theorem get?_insert (m : Dictionary κ α) (k j : κ) (v : α) :
    (m.insert k v).get? j = if k = j then some v else m.get? j :=
  find?_put k j v m.entries

theorem find?_eq_some_iff {entries : List (κ × α)} (distinct : (entries.map Prod.fst).Nodup) (k : κ)
    (v : α) : find? k entries = some v ↔ (k, v) ∈ entries := by
  induction entries with
  | nil => simp [find?]
  | cons entry rest ih =>
    obtain ⟨j, w⟩ := entry
    simp only [List.map_cons, List.nodup_cons] at distinct
    by_cases same : j = k
    · subst same
      have absent : (j, v) ∉ rest := fun present => distinct.1 (List.mem_map_of_mem (f := Prod.fst) present)
      simp [find?, absent, eq_comm]
    · have other : ¬ k = j := fun h => same h.symm
      simp [find?, same, other, ih distinct.2]

theorem find?_eq_none_iff (k : κ) (entries : List (κ × α)) :
    find? k entries = none ↔ k ∉ entries.map Prod.fst := by
  induction entries with
  | nil => simp [find?]
  | cons entry rest ih =>
    by_cases same : entry.1 = k
    · simp [find?, same]
    · simp [find?, same, ih, Ne.symm same]

theorem get?_eq_none_iff (m : Dictionary κ α) (k : κ) : m.get? k = none ↔ k ∉ m.keys :=
  find?_eq_none_iff k m.entries

theorem get?_eq_some_iff (m : Dictionary κ α) (k : κ) (v : α) :
    m.get? k = some v ↔ (k, v) ∈ m.entries :=
  find?_eq_some_iff m.nodup_keys k v

theorem mem_keys_iff (m : Dictionary κ α) (k : κ) : k ∈ m.keys ↔ ∃ v, m.get? k = some v := by
  simp [keys, get?_eq_some_iff]

theorem put_of_notMem {k : κ} {entries : List (κ × α)} (absent : k ∉ entries.map Prod.fst) (v : α) :
    put k v entries = entries ++ [(k, v)] := by
  induction entries with
  | nil => rfl
  | cons entry rest ih =>
    simp only [List.map_cons, List.mem_cons, not_or] at absent
    simp only [put, Ne.symm absent.1, if_false, ih absent.2, List.cons_append]

theorem entries_insert_of_notMem {m : Dictionary κ α} {k : κ} (absent : k ∉ m.keys) (v : α) :
    (m.insert k v).entries = m.entries ++ [(k, v)] :=
  put_of_notMem absent v

/-- A key of a part of a dictionary has the value that it has in the whole, if that may stay. -/
theorem get?_filter (m : Dictionary κ α) (keep : κ → α → Bool) (k : κ) :
    (m.filter keep).get? k = (m.get? k).filter (keep k) := by
  apply Option.ext
  intro v
  rw [get?_eq_some_iff, Option.filter_eq_some_iff, get?_eq_some_iff]
  exact List.mem_filter

/-- Of the keys of a dictionary those with a property. -/
theorem get?_filter_keys (m : Dictionary κ α) (p : κ → Prop) [DecidablePred p] (k : κ) :
    (m.filter fun k _ => decide (p k)).get? k = if p k then m.get? k else none := by
  rw [get?_filter]
  by_cases holds : p k <;> cases m.get? k <;> simp [holds]

/-- Look-up does not depend on the order of the entries. -/
theorem get?_eq_of_perm {m n : Dictionary κ α} (same : m.entries.Perm n.entries) (k : κ) :
    m.get? k = n.get? k := by
  apply Option.ext
  intro v
  rw [get?_eq_some_iff, get?_eq_some_iff, same.mem_iff]

end Dictionary

end FillInStory
