/-!
# Maps in insertion order

An ordered map lists its entries in the order in which their keys first came. A
key that comes again keeps its place and takes the new value. The view of a map
is its list of entries; the functions on lists stand apart because values hold
such lists themselves.
-/

namespace RecordCheck

universe u

variable {α : Type u}

/-! ## Lists of entries -/

namespace Entries

/-- The value of the first entry with the key. -/
def get? (key : String) : List (String × α) → Option α
  | [] => none
  | (k, value) :: rest => if k = key then some value else get? key rest

/-- The entries with the value put under the key: in place, or at the end. -/
def insert (key : String) (value : α) : List (String × α) → List (String × α)
  | [] => [(key, value)]
  | (k, old) :: rest =>
    if k = key then (k, value) :: rest else (k, old) :: insert key value rest

/-- The entries inserted one after another, so that of one key the last value stays. -/
def ofList (entries : List (String × α)) : List (String × α) :=
  entries.foldl (fun made entry => insert entry.1 entry.2 made) []

@[simp] theorem get?_nil (key : String) : get? key ([] : List (String × α)) = none := rfl

theorem get?_insert_self (key : String) (value : α) (entries : List (String × α)) :
    get? key (insert key value entries) = some value := by
  induction entries with
  | nil => simp [insert, get?]
  | cons entry rest ih =>
    obtain ⟨k, old⟩ := entry
    by_cases same : k = key <;> simp [insert, get?, same, ih]

theorem get?_insert_of_ne {key other : String} (different : other ≠ key) (value : α)
    (entries : List (String × α)) :
    get? other (insert key value entries) = get? other entries := by
  induction entries with
  | nil => simp [insert, get?, different.symm]
  | cons entry rest ih =>
    obtain ⟨k, old⟩ := entry
    by_cases same : k = key
    · subst same; simp [insert, get?, different.symm]
    · by_cases found : k = other
      · subst found; simp [insert, get?, different]
      · simp [insert, get?, same, found, ih]

theorem get?_eq_none_iff {key : String} {entries : List (String × α)} :
    get? key entries = none ↔ key ∉ entries.map Prod.fst := by
  induction entries with
  | nil => simp
  | cons entry rest ih =>
    obtain ⟨k, value⟩ := entry
    by_cases same : k = key
    · simp [get?, same]
    · simp [get?, same, Ne.symm same, ih]

/-- If no key occurs twice, looking a key up finds its entry. -/
theorem get?_eq_some_iff {key : String} {value : α} {entries : List (String × α)}
    (unique : (entries.map Prod.fst).Nodup) :
    get? key entries = some value ↔ (key, value) ∈ entries := by
  induction entries with
  | nil => simp
  | cons entry rest ih =>
    obtain ⟨k, first⟩ := entry
    obtain ⟨fresh, unique⟩ := List.nodup_cons.mp unique
    rw [List.mem_cons, ← ih unique]
    by_cases same : k = key
    · subst same
      have absent : get? k rest = none := get?_eq_none_iff.mpr fresh
      simp [get?, absent, eq_comm]
    · simp [get?, same, Ne.symm same]

/-- An insertion keeps the keys, or adds its own at the end. -/
theorem map_fst_insert (key : String) (value : α) (entries : List (String × α)) :
    (insert key value entries).map Prod.fst =
      if key ∈ entries.map Prod.fst then entries.map Prod.fst
      else entries.map Prod.fst ++ [key] := by
  induction entries with
  | nil => simp [insert]
  | cons entry rest ih =>
    obtain ⟨k, old⟩ := entry
    by_cases same : k = key
    · simp [insert, same]
    · have different : ¬ key = k := fun h => same h.symm
      simp only [insert, same, ↓reduceIte, List.map_cons, ih, List.mem_cons, different, false_or]
      split <;> simp

theorem nodup_insert {entries : List (String × α)} (unique : (entries.map Prod.fst).Nodup)
    (key : String) (value : α) : ((insert key value entries).map Prod.fst).Nodup := by
  rw [map_fst_insert]
  split
  · exact unique
  · rename_i absent
    rw [List.nodup_append]
    refine ⟨unique, by simp, ?_⟩
    rintro k present other member rfl
    rw [List.mem_singleton] at member
    exact absent (member ▸ present)

theorem nodup_ofList (entries : List (String × α)) : ((ofList entries).map Prod.fst).Nodup := by
  suffices general : ∀ (made : List (String × α)), (made.map Prod.fst).Nodup →
      ((entries.foldl (fun made entry => insert entry.1 entry.2 made) made).map Prod.fst).Nodup by
    exact general [] (by simp)
  induction entries with
  | nil => exact fun _ unique => unique
  | cons entry rest ih => exact fun made unique => ih _ (nodup_insert unique entry.1 entry.2)

end Entries

/-! ## Maps -/

/-- A map from texts that remembers the order in which its keys first came. -/
structure OrderedMap (α : Type u) where
  entries : List (String × α)
  unique : (entries.map Prod.fst).Nodup

namespace OrderedMap

/-- The map without entries. -/
def empty : OrderedMap α := ⟨[], by simp⟩

instance : Inhabited (OrderedMap α) := ⟨empty⟩

/-- The value under the key. -/
def get? (m : OrderedMap α) (key : String) : Option α := Entries.get? key m.entries

/-- The map with the value put under the key: in its old place, or at the end. -/
def insert (m : OrderedMap α) (key : String) (value : α) : OrderedMap α :=
  ⟨Entries.insert key value m.entries, Entries.nodup_insert m.unique key value⟩

/-- The entries inserted one after another. -/
def ofList (entries : List (String × α)) : OrderedMap α :=
  ⟨Entries.ofList entries, Entries.nodup_ofList entries⟩

/-- The keys in the order in which they first came. -/
def keys (m : OrderedMap α) : List String := m.entries.map Prod.fst

/-- The number of keys. -/
def size (m : OrderedMap α) : Nat := m.entries.length

@[simp] theorem get?_empty (key : String) : (empty : OrderedMap α).get? key = none := rfl

@[simp] theorem get?_insert (m : OrderedMap α) (key other : String) (value : α) :
    (m.insert key value).get? other = if other = key then some value else m.get? other := by
  split
  · rename_i same; subst same; exact Entries.get?_insert_self _ value m.entries
  · rename_i different; exact Entries.get?_insert_of_ne different value m.entries

theorem keys_insert (m : OrderedMap α) (key : String) (value : α) :
    (m.insert key value).keys = if key ∈ m.keys then m.keys else m.keys ++ [key] :=
  Entries.map_fst_insert key value m.entries

theorem get?_eq_none_iff {m : OrderedMap α} {key : String} : m.get? key = none ↔ key ∉ m.keys :=
  Entries.get?_eq_none_iff

theorem get?_eq_some_iff {m : OrderedMap α} {key : String} {value : α} :
    m.get? key = some value ↔ (key, value) ∈ m.entries :=
  Entries.get?_eq_some_iff m.unique

theorem size_eq (m : OrderedMap α) : m.size = m.keys.length := by simp [size, keys]

end OrderedMap

end RecordCheck
