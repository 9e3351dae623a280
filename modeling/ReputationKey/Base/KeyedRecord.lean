import Mathlib.Data.List.Perm.Lattice

/-!
# Records with optional keys

An object whose keys come from a finite catalogue and may be absent. Two records are equal when
they hold the same value at every key: the order in which the keys were written is not kept.
-/

namespace ReputationKey.Base

/-- A record that holds a value at some of the keys `κ`. -/
abbrev KeyedRecord (κ α : Type*) := κ → Option α

namespace KeyedRecord

variable {κ α β : Type*} [DecidableEq κ]

/-- The record without keys. -/
def empty : KeyedRecord κ α := fun _ ↦ none

/-- The record with one key written. -/
def set (record : KeyedRecord κ α) (key : κ) (value : α) : KeyedRecord κ α :=
  fun other ↦ if other = key then some value else record other

/-- The record without one of its keys. -/
def erase (record : KeyedRecord κ α) (key : κ) : KeyedRecord κ α :=
  fun other ↦ if other = key then none else record other

/-- The record with the value at one key changed. -/
def modify (record : KeyedRecord κ α) (key : κ) (change : Option α → Option α) : KeyedRecord κ α :=
  fun other ↦ if other = key then change (record key) else record other

theorem set_same (record : KeyedRecord κ α) (key : κ) (value : α) :
    record.set key value key = some value := if_pos rfl

theorem set_other (record : KeyedRecord κ α) {key other : κ} (value : α) (ne : other ≠ key) :
    record.set key value other = record other := if_neg ne

theorem modify_same (record : KeyedRecord κ α) (key : κ) (change : Option α → Option α) :
    record.modify key change key = change (record key) := if_pos rfl

theorem modify_other (record : KeyedRecord κ α) {key other : κ} (change : Option α → Option α)
    (ne : other ≠ key) : record.modify key change other = record other := if_neg ne

/-- The record of a list of entries, where a later entry replaces an earlier one. -/
def ofEntries (entries : List (κ × α)) : KeyedRecord κ α :=
  entries.foldl (fun record entry ↦ record.set entry.1 entry.2) empty

/-- The keys of a record, in the order of the catalogue. -/
def keys (catalogue : List κ) (record : KeyedRecord κ α) : List κ :=
  catalogue.filter fun key ↦ (record key).isSome

theorem foldl_set_map (f : κ → α) (keys : List κ) (start : KeyedRecord κ α) (key : κ) :
    ((keys.map fun k ↦ (k, f k)).foldl (fun record entry ↦ record.set entry.1 entry.2) start) key =
      if key ∈ keys then some (f key) else start key := by
  induction keys generalizing start with
  | nil => simp
  | cons first rest ih =>
      rw [List.map_cons, List.foldl_cons, ih]
      by_cases hrest : key ∈ rest
      · simp [hrest]
      · by_cases hfirst : key = first
        · simp [hfirst, set]
        · simp [hrest, hfirst, set]

theorem foldl_set_of_not_mem {entries : List (κ × α)} (start : KeyedRecord κ α) {key : κ}
    (absent : key ∉ entries.map Prod.fst) :
    (entries.foldl (fun record entry ↦ record.set entry.1 entry.2) start) key = start key := by
  induction entries generalizing start with
  | nil => rfl
  | cons first rest ih =>
      rw [List.map_cons, List.mem_cons, not_or] at absent
      rw [List.foldl_cons, ih _ absent.2]
      exact if_neg absent.1

/-- Entries under different keys are all held. -/
theorem foldl_set_of_mem {entries : List (κ × α)} (nodup : (entries.map Prod.fst).Nodup)
    (start : KeyedRecord κ α) {key : κ} {value : α} (mem : (key, value) ∈ entries) :
    (entries.foldl (fun record entry ↦ record.set entry.1 entry.2) start) key = some value := by
  induction entries generalizing start with
  | nil => cases mem
  | cons first rest ih =>
      rw [List.map_cons, List.nodup_cons] at nodup
      rw [List.foldl_cons]
      rcases List.mem_cons.1 mem with rfl | mem
      · rw [foldl_set_of_not_mem _ nodup.1]
        exact if_pos rfl
      · exact ih nodup.2 _ mem

/-- Changing each of a duplicate-free list of keys changes exactly these. -/
theorem foldl_modify (change : κ → Option α → Option α) {keys : List κ} (nodup : keys.Nodup)
    (start : KeyedRecord κ α) (key : κ) :
    (keys.foldl (fun record k ↦ record.modify k (change k)) start) key =
      if key ∈ keys then change key (start key) else start key := by
  induction keys generalizing start with
  | nil => simp
  | cons first rest ih =>
      rw [List.nodup_cons] at nodup
      rw [List.foldl_cons, ih nodup.2]
      by_cases hfirst : key = first
      · subst hfirst
        simp [nodup.1, modify]
      · simp [hfirst, modify]

/-- A record written key by key from a function holds that function at the keys written. -/
theorem ofEntries_map (f : κ → α) (keys : List κ) (key : κ) :
    ofEntries (keys.map fun k ↦ (k, f k)) key = if key ∈ keys then some (f key) else none :=
  foldl_set_map f keys empty key

/-- Entries written over a record. -/
theorem foldl_set_apply (entries : List (κ × α)) (start : KeyedRecord κ α) (key : κ) :
    (entries.foldl (fun record entry ↦ record.set entry.1 entry.2) start) key =
      (ofEntries entries key).or (start key) := by
  induction entries generalizing start with
  | nil => rfl
  | cons first rest ih =>
      have hentries : ofEntries (first :: rest) key =
          (ofEntries rest key).or (set empty first.1 first.2 key) := ih _
      rw [List.foldl_cons, ih, hentries, Option.or_assoc]
      by_cases hfirst : key = first.1 <;> simp [set, hfirst, empty]

theorem ofEntries_append (first later : List (κ × α)) (key : κ) :
    ofEntries (first ++ later) key = (ofEntries later key).or (ofEntries first key) := by
  rw [ofEntries, List.foldl_append, foldl_set_apply]
  rfl

/-- A record written from the keys at which a partial function has a value. -/
theorem ofEntries_filterMap (f : κ → Option α) (keys : List κ) (key : κ) :
    ofEntries (keys.filterMap fun k ↦ (f k).map fun value ↦ (k, value)) key =
      if key ∈ keys then f key else none := by
  induction keys with
  | nil => rfl
  | cons first rest ih =>
      cases h : f first with
      | none =>
          rw [List.filterMap_cons_none (by rw [h]; rfl), ih]
          by_cases hfirst : key = first
          · simp [hfirst, h]
          · simp [hfirst]
      | some value =>
          rw [List.filterMap_cons_some (by rw [h]; rfl), ← List.singleton_append, ofEntries_append, ih]
          by_cases hfirst : key = first
          · by_cases hrest : first ∈ rest <;> simp [hfirst, hrest, h, ofEntries, set]
          · by_cases hrest : key ∈ rest <;> simp [hfirst, hrest, ofEntries, set, empty]
theorem ofEntries_map_of_mem (f : κ → α) {keys : List κ} {key : κ} (mem : key ∈ keys) :
    ofEntries (keys.map fun k ↦ (k, f k)) key = some (f key) := by
  rw [ofEntries_map, if_pos mem]

theorem mem_of_ofEntries_map {f : κ → α} {keys : List κ} {key : κ} {value : α}
    (h : ofEntries (keys.map fun k ↦ (k, f k)) key = some value) :
    key ∈ keys ∧ value = f key := by
  rw [ofEntries_map] at h
  by_cases mem : key ∈ keys
  · rw [if_pos mem] at h
    exact ⟨mem, (Option.some.inj h).symm⟩
  · rw [if_neg mem] at h
    cases h

omit [DecidableEq κ] in
/-- A record holding exactly a duplicate-free list of keys has as many keys as the list. -/
theorem length_keys {catalogue keys : List κ} (all : ∀ key ∈ keys, key ∈ catalogue)
    (catalogueNodup : catalogue.Nodup) (nodup : keys.Nodup) {record : KeyedRecord κ α}
    (holds : ∀ key, (record key).isSome = true ↔ key ∈ keys) :
    (record.keys catalogue).length = keys.length := by
  apply List.Perm.length_eq
  rw [KeyedRecord.keys, List.perm_ext_iff_of_nodup (catalogueNodup.filter _) nodup]
  intro key
  rw [List.mem_filter, holds]
  exact ⟨fun h ↦ h.2, fun h ↦ ⟨all key h, h⟩⟩

end KeyedRecord

end ReputationKey.Base
