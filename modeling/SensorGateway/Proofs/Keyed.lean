import Mathlib.Data.List.Nodup
import SensorGateway.Data.Keyed

/-!
# Maps as lists of entries

Most of the development sees a map only through `get?`. Where the entries themselves are counted,
as when every reassembly of a table is given up at once, it has to be known that no key occurs
twice. That is `Unique`, which holds of the empty map and is kept by every operation; under it the
entry found at a key is the only one there, and erasing the key removes that entry and no other.
-/

namespace SensorGateway.Keyed

variable {κ α : Type} [DecidableEq κ]

@[simp]
theorem get?_insert_self (map : Keyed κ α) (key : κ) (value : α) :
    (map.insert key value).get? key = some value := by
  rw [get?_insert, if_pos rfl]

theorem get?_insert_of_ne (map : Keyed κ α) {key other : κ} (value : α) (hne : other ≠ key) :
    (map.insert key value).get? other = map.get? other := by
  rw [get?_insert, if_neg hne]

@[simp]
theorem get?_erase_self (map : Keyed κ α) (key : κ) : (map.erase key).get? key = none := by
  rw [get?_erase, if_pos rfl]

theorem get?_erase_of_ne (map : Keyed κ α) {key other : κ} (hne : other ≠ key) :
    (map.erase key).get? other = map.get? other := by
  rw [get?_erase, if_neg hne]

theorem erase_insert (map : Keyed κ α) (key : κ) (value : α) :
    (map.insert key value).erase key = map.erase key := by
  rw [insert, erase, erase, List.filter_cons_of_neg (by simp), List.filter_filter]
  simp

/-- Inserting an entry again changes nothing, not even the order of the entries. -/
theorem insert_insert (map : Keyed κ α) (key : κ) (value : α) :
    (map.insert key value).insert key value = map.insert key value := by
  rw [insert, erase_insert, insert]

theorem get?_eq_none_of_size_eq_zero {map : Keyed κ α} (hsize : map.size = 0) (key : κ) :
    map.get? key = none := by
  have hentries : map.entries = [] := List.eq_nil_of_length_eq_zero hsize
  simp [get?, hentries]

theorem mem_entries_of_get? {map : Keyed κ α} {key : κ} {value : α}
    (hget : map.get? key = some value) : (key, value) ∈ map.entries := by
  obtain ⟨⟨found, held⟩, hfind, hvalue⟩ := Option.map_eq_some_iff.mp hget
  have hkey : found = key := by simpa using List.find?_some hfind
  have hheld : held = value := hvalue
  subst hkey hheld
  exact List.mem_of_find?_eq_some hfind

/-! ### Unique keys -/

def Unique (map : Keyed κ α) : Prop :=
  (map.entries.map Prod.fst).Nodup

omit [DecidableEq κ] in
theorem unique_empty : (empty : Keyed κ α).Unique :=
  List.nodup_nil

theorem Unique.erase {map : Keyed κ α} (h : map.Unique) (key : κ) : (map.erase key).Unique :=
  h.sublist (List.filter_sublist.map Prod.fst)

theorem Unique.insert {map : Keyed κ α} (h : map.Unique) (key : κ) (value : α) :
    (map.insert key value).Unique := by
  refine List.nodup_cons.mpr ⟨?_, h.erase key⟩
  intro hmem
  obtain ⟨entry, hentry, hkey⟩ := List.mem_map.mp hmem
  have hne := (List.mem_filter.mp hentry).2
  simp only [decide_not, Bool.not_eq_true', decide_eq_false_iff_not] at hne
  exact hne hkey

theorem Unique.get?_eq_some_iff {map : Keyed κ α} (h : map.Unique) {key : κ} {value : α} :
    map.get? key = some value ↔ (key, value) ∈ map.entries := by
  refine ⟨mem_entries_of_get?, fun hmem => ?_⟩
  cases hget : map.get? key with
  | none =>
    rw [get?, Option.map_eq_none_iff, List.find?_eq_none] at hget
    exact absurd (decide_eq_true rfl) (hget _ hmem)
  | some held =>
    have hheld := mem_entries_of_get? hget
    have hpair := List.inj_on_of_nodup_map h hmem hheld rfl
    exact congrArg some (congrArg Prod.snd hpair).symm

/-- The entry at a key is the only one that erasing the key removes. -/
theorem Unique.perm_cons_erase {map : Keyed κ α} (h : map.Unique) {key : κ} {value : α}
    (hget : map.get? key = some value) :
    map.entries.Perm ((key, value) :: (map.erase key).entries) := by
  classical
  have hmem := mem_entries_of_get? hget
  refine (List.perm_cons_erase hmem).trans (List.Perm.cons _ (List.Perm.of_eq ?_))
  rw [List.Nodup.erase_eq_filter h.of_map, Keyed.erase]
  refine List.filter_congr fun entry hentry => ?_
  have hiff : entry = (key, value) ↔ entry.1 = key :=
    ⟨fun heq => heq ▸ rfl, fun heq => List.inj_on_of_nodup_map h hentry hmem heq⟩
  rw [Bool.eq_iff_iff]
  simpa using not_congr hiff

/-! ### Maps under a function -/

section MapValues

variable {β : Type} (f : α → β) (map : Keyed κ α) (key : κ)

def mapValues (map : Keyed κ α) : Keyed κ β :=
  ⟨map.entries.map fun entry => (entry.1, f entry.2)⟩

theorem get?_mapValues : (map.mapValues f).get? key = (map.get? key).map f := by
  rw [get?, get?, mapValues, List.find?_map, Option.map_map, Option.map_map]
  rfl

theorem mapValues_erase : (map.erase key).mapValues f = (map.mapValues f).erase key := by
  rw [erase, erase, mapValues, mapValues, List.filter_map]
  rfl

theorem mapValues_insert (value : α) :
    (map.insert key value).mapValues f = (map.mapValues f).insert key (f value) := by
  rw [insert, insert, ← mapValues_erase]
  rfl

end MapValues

end SensorGateway.Keyed
