/-! Tables that keep their keys in the order in which they first arrived. Overwriting a key leaves it
where it is, and a removed key that comes back goes to the end. -/

namespace RuleHost

/-- A finite map whose entries are listed in order of arrival, each key once. -/
structure Table (κ α : Type) where
  entries : List (κ × α)
  distinct : (entries.map Prod.fst).Nodup

namespace Table

variable {κ α : Type}

def empty : Table κ α := ⟨[], .nil⟩

instance : Inhabited (Table κ α) := ⟨empty⟩

def keys (t : Table κ α) : List κ := t.entries.map Prod.fst

def values (t : Table κ α) : List α := t.entries.map Prod.snd

def size (t : Table κ α) : Nat := t.entries.length

def isEmpty (t : Table κ α) : Bool := t.entries.isEmpty

theorem keys_nodup (t : Table κ α) : t.keys.Nodup := t.distinct

theorem size_eq_length_keys (t : Table κ α) : t.size = t.keys.length := by simp [size, keys]

theorem ext_entries {s t : Table κ α} (same : s.entries = t.entries) : s = t := by
  cases s; cases t; cases same; rfl

variable [DecidableEq κ]

def find? (t : Table κ α) (key : κ) : Option α :=
  (t.entries.find? fun entry => entry.1 == key).map Prod.snd

def contains (t : Table κ α) (key : κ) : Bool := t.entries.any fun entry => entry.1 == key

/-- Replaces the value of one key, wherever it stands. -/
def overwrite (key : κ) (value : α) (entries : List (κ × α)) : List (κ × α) :=
  entries.map fun entry => if entry.1 = key then (key, value) else entry

theorem map_fst_overwrite (key : κ) (value : α) (entries : List (κ × α)) :
    (overwrite key value entries).map Prod.fst = entries.map Prod.fst := by
  unfold overwrite
  rw [List.map_map]
  apply List.map_congr_left
  intro entry _
  simp only [Function.comp]
  split
  · rename_i same; exact same.symm
  · rfl

theorem contains_eq_true_iff {t : Table κ α} {key : κ} : t.contains key = true ↔ key ∈ t.keys := by
  simp [contains, keys]

theorem contains_eq_false_iff {t : Table κ α} {key : κ} : t.contains key = false ↔ key ∉ t.keys := by
  rw [← contains_eq_true_iff, Bool.not_eq_true]

/-- Gives a key a value: in place if the key is known, at the end otherwise. -/
def insert (t : Table κ α) (key : κ) (value : α) : Table κ α :=
  if known : t.contains key = true then
    ⟨overwrite key value t.entries, by rw [map_fst_overwrite]; exact t.distinct⟩
  else
    ⟨t.entries ++ [(key, value)], by
      have fresh : key ∉ t.keys := fun found => known (contains_eq_true_iff.mpr found)
      rw [List.map_append, List.nodup_append]
      refine ⟨t.distinct, by simp, ?_⟩
      intro other found last same
      simp at same
      subst same
      intro equal
      subst equal
      exact fresh found⟩

/-- Removes a key, keeping the order of the others. -/
def erase (t : Table κ α) (key : κ) : Table κ α :=
  ⟨t.entries.filter fun entry => entry.1 != key,
    t.distinct.sublist ((List.filter_sublist).map Prod.fst)⟩

theorem keys_insert_of_mem {t : Table κ α} {key : κ} (value : α) (known : key ∈ t.keys) :
    (t.insert key value).keys = t.keys := by
  unfold insert
  rw [dif_pos (contains_eq_true_iff.mpr known)]
  exact map_fst_overwrite key value t.entries

theorem entries_insert_of_not_mem {t : Table κ α} {key : κ} (value : α) (fresh : key ∉ t.keys) :
    (t.insert key value).entries = t.entries ++ [(key, value)] := by
  unfold insert
  rw [dif_neg (fun found => fresh (contains_eq_true_iff.mp found))]

theorem keys_insert_of_not_mem {t : Table κ α} {key : κ} (value : α) (fresh : key ∉ t.keys) :
    (t.insert key value).keys = t.keys ++ [key] := by
  simp only [keys, entries_insert_of_not_mem value fresh, List.map_append, List.map_cons, List.map_nil]

private theorem find_overwrite_of_ne {key other : κ} (value : α) (differ : key ≠ other)
    (entries : List (κ × α)) :
    (overwrite key value entries).find? (fun entry => entry.1 == other) =
      entries.find? (fun entry => entry.1 == other) := by
  have apart : (key == other) = false := by simp [differ]
  induction entries with
  | nil => rfl
  | cons entry rest ih =>
    simp only [overwrite] at ih
    simp only [overwrite, List.map_cons, List.find?_cons, ih]
    by_cases here : entry.1 = key
    · simp [here, apart]
    · simp [here]

private theorem find_overwrite_self {key : κ} (value : α) {entries : List (κ × α)}
    (known : key ∈ entries.map Prod.fst) :
    (overwrite key value entries).find? (fun entry => entry.1 == key) = some (key, value) := by
  induction entries with
  | nil => simp at known
  | cons entry rest ih =>
    simp only [overwrite] at ih
    simp only [overwrite, List.map_cons, List.find?_cons]
    by_cases here : entry.1 = key
    · simp [here]
    · have apart : (entry.1 == key) = false := by simp [here]
      simp only [here, if_false, apart]
      apply ih
      simpa [Ne.symm here] using known

theorem find?_insert (t : Table κ α) (key other : κ) (value : α) :
    (t.insert key value).find? other = if key = other then some value else t.find? other := by
  unfold insert
  split
  · rename_i known
    simp only [find?]
    split
    · rename_i same
      subst same
      rw [find_overwrite_self value (contains_eq_true_iff.mp known)]
      rfl
    · rename_i differ
      rw [find_overwrite_of_ne value differ]
  · rename_i fresh
    simp only [find?, List.find?_append, List.find?_cons, List.find?_nil]
    by_cases same : key = other
    · subst same
      have absent : t.entries.find? (fun entry => entry.1 == key) = none := by
        rw [List.find?_eq_none]
        intro entry member equal
        apply fresh
        rw [contains_eq_true_iff]
        exact List.mem_map.mpr ⟨entry, member, by simpa using equal⟩
      simp [absent]
    · have apart : (key == other) = false := by simp [same]
      simp [apart, same]

theorem keys_erase (t : Table κ α) (key : κ) :
    (t.erase key).keys = t.keys.filter (fun other => other != key) := by
  simp only [erase, keys, List.filter_map]
  rfl

theorem find?_erase (t : Table κ α) (key other : κ) :
    (t.erase key).find? other = if key = other then none else t.find? other := by
  simp only [find?, erase]
  by_cases same : key = other
  · subst same
    simp [List.find?_eq_none]
  · rw [if_neg same, List.find?_filter]
    congr 2
    funext entry
    by_cases here : entry.1 = other
    · simp [here]
      exact fun equal => same equal.symm
    · simp [here]

theorem find?_eq_none_iff {t : Table κ α} {key : κ} : t.find? key = none ↔ key ∉ t.keys := by
  simp only [find?, keys, Option.map_eq_none_iff, List.find?_eq_none, List.mem_map]
  constructor
  · rintro absent ⟨entry, member, same⟩
    exact absent entry member (by simpa using same)
  · intro absent entry member same
    exact absent ⟨entry, member, by simpa using same⟩

private theorem find_of_mem {key : κ} {value : α} {entries : List (κ × α)}
    (distinct : (entries.map Prod.fst).Nodup) (member : (key, value) ∈ entries) :
    entries.find? (fun entry => entry.1 == key) = some (key, value) := by
  induction entries with
  | nil => cases member
  | cons entry rest ih =>
    rw [List.map_cons, List.nodup_cons] at distinct
    rw [List.find?_cons]
    rcases List.mem_cons.mp member with rfl | later
    · rw [beq_self_eq_true]
    · have differ : entry.1 ≠ key := fun same => distinct.1 (same ▸ List.mem_map_of_mem later)
      rw [beq_false_of_ne differ]
      exact ih distinct.2 later

theorem find?_eq_some_iff {t : Table κ α} {key : κ} {value : α} :
    t.find? key = some value ↔ (key, value) ∈ t.entries := by
  simp only [find?, Option.map_eq_some_iff]
  constructor
  · rintro ⟨entry, found, rfl⟩
    have same := List.find?_some found
    rw [← eq_of_beq same]
    exact List.mem_of_find?_eq_some found
  · exact fun member => ⟨_, find_of_mem t.distinct member, rfl⟩

theorem contains_eq_isSome (t : Table κ α) (key : κ) : t.contains key = (t.find? key).isSome := by
  rw [Bool.eq_iff_iff, contains_eq_true_iff, Option.isSome_iff_ne_none, ne_eq, find?_eq_none_iff,
    Decidable.not_not]

theorem contains_insert (t : Table κ α) (key other : κ) (value : α) :
    (t.insert key value).contains other = (decide (key = other) || t.contains other) := by
  simp only [contains_eq_isSome, find?_insert]
  split
  next same => simp [same]
  next differ => simp [differ]

theorem contains_erase (t : Table κ α) (key other : κ) :
    (t.erase key).contains other = (!decide (key = other) && t.contains other) := by
  simp only [contains_eq_isSome, find?_erase]
  split
  next same => simp [same]
  next differ => simp [differ]

theorem size_insert_of_not_mem {t : Table κ α} {key : κ} (value : α) (fresh : key ∉ t.keys) :
    (t.insert key value).size = t.size + 1 := by
  simp [size_eq_length_keys, keys_insert_of_not_mem value fresh]

theorem size_erase_of_mem {t : Table κ α} {key : κ} (known : key ∈ t.keys) :
    (t.erase key).size + 1 = t.size := by
  rw [size_eq_length_keys, size_eq_length_keys, keys_erase, ← t.keys_nodup.erase_eq_filter key,
    List.length_erase_of_mem known]
  have some := List.length_pos_of_mem known
  omega

end Table
end RuleHost
