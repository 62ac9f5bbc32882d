import Mathlib.Algebra.Order.Ring.Nat
import Mathlib.Data.Finset.Card
import Mathlib.Data.List.AList

/-!
# Keyed tables

A hash map whose order is never observed is a finite partial function with a count of its
keys. To the association lists of Mathlib this adds the count and the bulk removal of a
`retain` loop.
-/

namespace KeyedTable

open AList
open List (map_cons)

abbrev Table (Key Value : Type*) := AList fun _ : Key => Value

variable {Key Value : Type*}

def size (table : Table Key Value) : Nat := table.entries.length

/-- Removing the keys of all the other entries one by one ends in the same table. -/
def retain (keep : Key → Value → Bool) (table : Table Key Value) : Table Key Value where
  entries := table.entries.filter fun entry => keep entry.1 entry.2
  nodupKeys := table.nodupKeys.sublist List.filter_sublist

variable (keep : Key → Value → Bool)

variable (weight : Value → Nat) (test : Key → Bool) (key other : Key) (value : Value)
variable (table : Table Key Value)

theorem size_retain_le : size (retain keep table) ≤ size table :=
  List.length_filter_le _ _

def values (table : Table Key Value) : List Value := table.entries.map Sigma.snd

variable [DecidableEq Key]

/-- The values are entered one after the other, each under its own key. -/
def insertAll (key : Value → Key) (entered : List Value) (table : Table Key Value) :
    Table Key Value :=
  entered.foldl (fun table value => table.insert (key value) value) table

theorem size_erase_le : size (table.erase key) ≤ size table :=
  (List.kerase_sublist key table.entries).length_le

theorem size_insert_absent (absent : table.lookup key = none) :
    size (table.insert key value) = size table + 1 := by
  have missing : key ∉ table := lookup_eq_none.mp absent
  simp only [size, entries_insert_of_notMem missing, List.length_cons]

theorem size_insert_present (value : Value) {old : Value} {table : Table Key Value}
    (present : table.lookup key = some old) : size (table.insert key value) = size table := by
  have member : key ∈ table := lookup_isSome.mp (by rw [present]; rfl)
  obtain ⟨other, before, after, _, split, erased⟩ := List.exists_of_kerase member
  simp only [size, entries_insert, List.length_cons, erased]
  rw [split]
  simp only [List.length_append, List.length_cons]
  omega

theorem size_insert_le : size (table.insert key value) ≤ size table + 1 := by
  cases found : table.lookup key with
  | none => exact (size_insert_absent key value table found).le
  | some old => exact (size_insert_present key value found).le.trans (Nat.le_succ _)

theorem size_eq_card : size table = table.keys.toFinset.card := by
  rw [List.toFinset_card_of_nodup table.keys_nodup, size, AList.keys, List.keys, List.length_map]

theorem mem_keys_iff : key ∈ table.keys.toFinset ↔ (table.lookup key).isSome := by
  rw [List.mem_toFinset, ← AList.mem_keys, AList.lookup_isSome]

theorem size_eq_iff_of_subset {part whole : Table Key Value}
    (subset : ∀ key, (part.lookup key).isSome → (whole.lookup key).isSome) :
    size part = size whole ↔ ∀ key, (whole.lookup key).isSome → (part.lookup key).isSome := by
  have inside : part.keys.toFinset ⊆ whole.keys.toFinset := by
    intro key
    rw [mem_keys_iff, mem_keys_iff]
    exact subset key
  rw [size_eq_card, size_eq_card]
  constructor
  · intro cards key member
    have same := Finset.eq_of_subset_of_card_le inside cards.ge
    rw [← mem_keys_iff] at member ⊢
    rw [same]
    exact member
  · intro all
    apply congrArg Finset.card
    apply Finset.Subset.antisymm inside
    intro key
    rw [mem_keys_iff, mem_keys_iff]
    exact all key

theorem lookup_retain (key : Key) :
    (retain keep table).lookup key = (table.lookup key).filter (keep key) := by
  apply Option.ext
  intro value
  have unique := table.nodupKeys
  have filteredUnique := (retain keep table).nodupKeys
  have filtered : (retain keep table).lookup key = some value ↔
      Sigma.mk key value ∈ (retain keep table).entries :=
    List.mem_dlookup_iff filteredUnique
  have whole : table.lookup key = some value ↔ Sigma.mk key value ∈ table.entries :=
    List.mem_dlookup_iff unique
  rw [filtered, Option.filter_eq_some_iff, whole]
  simp only [retain, List.mem_filter]

theorem lookup_retain_kept {key : Key} {value : Value} (present : table.lookup key = some value)
    (kept : keep key value = true) : (retain keep table).lookup key = some value := by
  rw [lookup_retain, present, Option.filter_some, kept]
  rfl

def countKeys (test : Key → Bool) (table : Table Key Value) : Nat :=
  table.entries.countP fun entry => test entry.1

theorem countKeys_insert_absent (absent : table.lookup key = none) :
    countKeys test (table.insert key value) = countKeys test table + if test key then 1 else 0 := by
  have missing : key ∉ table := lookup_eq_none.mp absent
  simp only [countKeys, entries_insert_of_notMem missing, List.countP_cons]

theorem countKeys_erase_present (present : table.lookup key = some value) :
    countKeys test (table.erase key) + (if test key then 1 else 0) = countKeys test table := by
  have member : key ∈ table := lookup_isSome.mp (by rw [present]; rfl)
  obtain ⟨other, before, after, _, split, erased⟩ := List.exists_of_kerase member
  have remaining : (table.erase key).entries = before ++ after := erased
  simp only [countKeys, remaining]
  rw [split]
  simp only [List.countP_append, List.countP_cons]
  omega

theorem erase_absent (absent : table.lookup key = none) : table.erase key = table := by
  have missing : key ∉ table.entries.keys := lookup_eq_none.mp absent
  apply AList.ext
  exact List.kerase_of_notMem_keys missing

theorem sum_erase :
    ((values (table.erase key)).map weight).sum + ((table.lookup key).map weight).getD 0 =
      ((values table).map weight).sum := by
  cases found : table.lookup key with
  | none => rw [erase_absent key table found, Option.map_none, Option.getD_none, Nat.add_zero]
  | some value =>
    have member : key ∈ table := lookup_isSome.mp (by rw [found]; rfl)
    rcases List.exists_of_kerase member with ⟨other, before, after, _, split, erased⟩
    have listed : Sigma.mk key other ∈ table.entries := by rw [split]; simp
    have same : other = value := by
      have again : table.lookup key = some other := mem_lookup_iff.mpr listed
      exact Option.some.inj (again.symm.trans found)
    have remaining : (table.erase key).entries = before ++ after := erased
    rw [Option.map_some, Option.getD_some, values, values, remaining, split, ← same]
    simp only [List.map_append, map_cons, List.sum_append, List.sum_cons]
    omega

theorem sum_insert :
    ((values (table.insert key value)).map weight).sum + ((table.lookup key).map weight).getD 0 =
      ((values table).map weight).sum + weight value := by
  have inserted : ((values (table.insert key value)).map weight).sum =
      weight value + ((values (table.erase key)).map weight).sum := by
    rw [values, entries_insert, map_cons, map_cons, List.sum_cons]
    rfl
  rw [inserted, ← sum_erase weight key table]
  omega

theorem lookup_insert_eq : (table.insert key value).lookup other = if other =
      key then some value else table.lookup other := by
  by_cases same : other = key
  · rw [same, if_pos rfl, lookup_insert]
  · rw [if_neg same, lookup_insert_ne same]

theorem lookup_erase_eq :
    (table.erase key).lookup other = if other = key then none else table.lookup other := by
  by_cases same : other = key
  · rw [same, if_pos rfl, lookup_erase]
  · rw [if_neg same, lookup_erase_ne same]

/-- Each value stands under its own key. -/
def Keyed (key : Value → Key) (table : Table Key Value) : Prop :=
  ∀ other value, table.lookup other = some value → key value = other

section

variable {key : Value → Key} {table : Table Key Value}

theorem Keyed.map_values (keyed : Keyed key table) : (values table).map key = table.keys := by
  rw [values, List.map_map, AList.keys, List.keys]
  apply List.map_congr_left
  intro entry listed
  exact keyed entry.1 entry.2 (AList.mem_lookup_iff.mpr listed)

theorem Keyed.nodup_values (keyed : Keyed key table) : ((values table).map key).Nodup := by
  rw [keyed.map_values]
  exact table.keys_nodup

theorem mem_values_iff (value : Value) :
    value ∈ values table ↔ ∃ other, table.lookup other = some value := by
  rw [values, List.mem_map]
  constructor
  · intro listed
    rcases listed with ⟨entry, inside, same⟩
    refine ⟨entry.1, ?_⟩
    rw [← same]
    exact AList.mem_lookup_iff.mpr inside
  · intro found
    rcases found with ⟨other, found⟩
    exact ⟨⟨other, value⟩, AList.mem_lookup_iff.mp found, rfl⟩

theorem Keyed.empty : Keyed key (∅ : Table Key Value) := by
  intro other value found
  cases found

theorem Keyed.insert (keyed : Keyed key table) {other : Key} {value : Value}
    (own : key value = other) : Keyed key (table.insert other value) := by
  intro another found listed
  rw [lookup_insert_eq] at listed
  split at listed
  · rename_i same
    rw [← Option.some.inj listed, own, same]
  · exact keyed another found listed

theorem Keyed.erase (keyed : Keyed key table) (other : Key) : Keyed key (table.erase other) := by
  intro another value found
  rw [lookup_erase_eq] at found
  split at found
  · cases found
  · exact keyed another value found

theorem Keyed.retain (keyed : Keyed key table) (keep : Key → Value → Bool) :
    Keyed key (retain keep table) := by
  intro other value found
  rw [lookup_retain, Option.filter_eq_some_iff] at found
  exact keyed other value found.1

theorem Keyed.insertAll (keyed : Keyed key table) (entered : List Value) :
    Keyed key (insertAll key entered table) := by
  induction entered generalizing table with
  | nil => exact keyed
  | cons value entered ih => exact ih (keyed.insert rfl)

theorem isSome_lookup_insertAll (entered : List Value) (other : Key) :
    ((insertAll key entered table).lookup other).isSome ↔
      (table.lookup other).isSome ∨ other ∈ entered.map key := by
  induction entered generalizing table with
  | nil =>
    rw [insertAll, List.foldl_nil, List.map_nil]
    simp only [List.not_mem_nil, or_false]
  | cons value entered ih =>
    have later := @ih (table.insert (key value) value)
    rw [lookup_insert_eq] at later
    rw [insertAll, List.foldl_cons, map_cons, List.mem_cons]
    refine later.trans ?_
    by_cases same : other = key value
    · simp only [same, if_true, Option.isSome_some, true_or, or_true]
    · simp only [same, if_false, false_or]

theorem size_insertAll (entered : List Value) :
    size (insertAll key entered (∅ : Table Key Value)) = (entered.map key).toFinset.card := by
  rw [size_eq_card]
  apply congrArg Finset.card
  apply Finset.ext
  intro other
  rw [mem_keys_iff, isSome_lookup_insertAll, List.mem_toFinset]
  constructor
  · intro either
    exact either.resolve_left (fun found => nomatch found)
  · intro listed
    exact Or.inr listed

end

end KeyedTable
