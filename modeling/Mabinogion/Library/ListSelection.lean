import Mathlib.Data.List.Nodup

/-!
# Selections from a list

When a filter keeps a stretch of a list, and what it means that the last items
of two selections are the same.
-/

namespace ListSelection

open List

variable {Item : Type*} {keep : Item → Bool} {items : List Item} {bound : Nat}

theorem filter_split (bound : Nat) : items.filter keep =
    (items.take bound).filter keep ++ (items.drop bound).filter keep := by
  rw [← filter_append, take_append_drop]

theorem filter_eq_take
    (below : ∀ index (inside : index < items.length), keep items[index] = true ↔ index < bound) :
    items.filter keep = items.take bound := by
  have front : (items.take bound).filter keep = items.take bound := by
    rw [filter_eq_self]
    intro item member
    obtain ⟨index, inside, rfl⟩ := mem_take_iff_getElem.mp member
    exact (below index (by omega)).mpr (by omega)
  have back : (items.drop bound).filter keep = [] := by
    rw [filter_eq_nil_iff]
    intro item member kept
    obtain ⟨index, inside, rfl⟩ := mem_drop_iff_getElem.mp member
    have early := (below _ (by omega)).mp kept
    omega
  rw [filter_split bound, front, back, append_nil]

theorem filter_eq_drop
    (above : ∀ index (inside : index < items.length), keep items[index] = true ↔ bound ≤ index) :
    items.filter keep = items.drop bound := by
  have front : (items.take bound).filter keep = [] := by
    rw [filter_eq_nil_iff]
    intro item member kept
    obtain ⟨index, inside, rfl⟩ := mem_take_iff_getElem.mp member
    have late := (above index (by omega)).mp kept
    omega
  have back : (items.drop bound).filter keep = items.drop bound := by
    rw [filter_eq_self]
    intro item member
    obtain ⟨index, inside, rfl⟩ := mem_drop_iff_getElem.mp member
    exact (above _ (by omega)).mpr (by omega)
  rw [filter_split bound, front, back, nil_append]

variable {index : Nat}

theorem getElem_mem_take_iff (distinct : items.Nodup) (inside : index < items.length) :
    items[index] ∈ items.take bound ↔ index < bound := by
  rw [mem_take_iff_getElem]
  constructor
  · rintro ⟨place, within, same⟩
    rw [(Nodup.getElem_inj_iff distinct).mp same] at within
    omega
  · intro early
    exact ⟨index, by omega, rfl⟩

theorem not_keep_of_head?_filter (distinct : items.Nodup) (within : bound < items.length)
    (head : (items.filter keep).head? = some items[bound]) (early : index < bound) :
    ¬keep (items[index]) = true := by
  rw [head?_filter, find?_eq_some_iff_getElem] at head
  obtain ⟨_, place, inside, same, before⟩ := head
  rw [Nodup.getElem_inj_iff distinct] at same
  have dropped := before index (by omega)
  simpa using dropped

theorem not_keep_of_getLast?_filter (distinct : items.Nodup) {last : Item}
    (front : last ∈ items.take bound) (ends : (items.filter keep).getLast? = some last)
    (inside : index < items.length) (late : bound ≤ index) :
    ¬keep (items[index]) = true := by
  intro kept
  have member : items[index] ∈ (items.drop bound).filter keep := by
    rw [mem_filter, mem_drop_iff_getElem]
    exact ⟨⟨index - bound, by omega, by congr 1; omega⟩, kept⟩
  rw [filter_split bound, getLast?_append_of_ne_nil _ (ne_nil_of_mem member)] at ends
  have back : last ∈ items.drop bound := mem_of_mem_filter (mem_of_getLast? ends)
  exact disjoint_take_drop distinct (Nat.le_refl bound) front back

theorem eq_reverse_iff (distinct : items.Nodup) : items = items.reverse ↔ items.length ≤ 1 := by
  constructor
  · intro same
    by_contra several
    have first : 0 < items.length := by omega
    have last : items.length - 1 < items.length := by omega
    have ends : items[0] = items[items.length - 1] := by
      have here := getElem_of_eq same first
      rw [here, getElem_reverse]
      simp
    have index := (Nodup.getElem_inj_iff distinct).mp ends
    omega
  · intro few
    cases items with
    | nil => rfl
    | cons item items =>
      have none : items = [] := length_eq_zero_iff.mp (by simpa using few)
      rw [none]
      rfl

def lastOf (count : Nat) (items : List Item) : List Item := items.drop (items.length - count)

theorem lastOf_append {count : Nat} (front : List Item) {back : List Item}
    (fits : back.length = count) :
    lastOf count (front ++ back) = back := by
  rw [lastOf, length_append, fits, Nat.add_sub_cancel, drop_left]

theorem lastOf_eq_self {count : Nat} (few : items.length ≤ count) : lastOf count items = items := by
  rw [lastOf, Nat.sub_eq_zero_of_le few, drop_zero]

theorem getLast?_lastOf {count : Nat} (positive : 0 < count) :
    (lastOf count items).getLast? = items.getLast? := by
  rw [lastOf, getLast?_drop]
  split_ifs with few
  · have empty : items = [] := length_eq_zero_iff.mp (by omega)
    rw [empty, getLast?_nil]
  · rfl

theorem filter_key_eq_singleton {Key Value : Type*} [DecidableEq Key] {key : Key} {value : Value}
    {entries : List (Key × Value)} (distinct : (entries.map Prod.fst).Nodup)
    (member : (key, value) ∈ entries) :
    entries.filter (fun entry => entry.1 = key) = [(key, value)] := by
  induction entries with
  | nil => cases member
  | cons entry entries ih =>
    rw [map_cons, nodup_cons] at distinct
    rcases mem_cons.mp member with rfl | later
    · have none : entries.filter (fun entry => entry.1 = key) = [] := by
        rw [filter_eq_nil_iff]
        intro other listed same
        have equal : other.1 = key := of_decide_eq_true same
        exact distinct.1 (mem_map.mpr ⟨other, listed, equal⟩)
      rw [filter_cons_of_pos (by simp), none]
    · have different : ¬entry.1 = key := by
        intro same
        exact distinct.1 (mem_map.mpr ⟨(key, value), later, same.symm⟩)
      rw [filter_cons_of_neg (by simp [different]), ih distinct.2 later]

/-- `Vec::swap_remove`: the item at an index, whose place the last item takes. -/
def swapRemove (items : List Item) (index : Nat) : Option (Item × List Item) :=
  match items[index]?, items.getLast? with
  | some item, some last => some (item, (items.set index last).dropLast)
  | _, _ => none

theorem exists_swapRemove (inside : index < items.length) :
    ∃ item rest, swapRemove items index = some (item, rest) ∧ items[index]? = some item ∧
      rest.length + 1 = items.length ∧ ∀ other ∈ rest, other ∈ items := by
  have filled : items ≠ [] := ne_nil_of_length_pos (Nat.zero_lt_of_lt inside)
  refine ⟨items[index], (items.set index (items.getLast filled)).dropLast, ?_,
    getElem?_eq_getElem inside, ?_, ?_⟩
  · rw [swapRemove, getElem?_eq_getElem inside, getLast?_eq_some_getLast filled]
  · rw [length_dropLast, length_set]
    omega
  · intro other member
    rcases mem_or_eq_of_mem_set (dropLast_subset _ member) with old | last
    · exact old
    · rw [last]
      exact getLast_mem filled

end ListSelection
