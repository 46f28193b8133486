/-!
# Finite maps

Directories, stores and tables map keys to values. A map is the list of its entries, and no key
occurs in it twice because inserting removes what was there before. All that anybody may rely on is
said by `get?`: the lemmas below give it after every operation.
-/

namespace SensorGateway

structure Keyed (κ α : Type) where
  entries : List (κ × α)
deriving DecidableEq

namespace Keyed

variable {κ α : Type} [DecidableEq κ]

def empty : Keyed κ α := ⟨[]⟩

instance : Inhabited (Keyed κ α) := ⟨empty⟩

def size (map : Keyed κ α) : Nat := map.entries.length

def get? (map : Keyed κ α) (key : κ) : Option α :=
  (map.entries.find? fun entry => entry.1 = key).map Prod.snd

def contains (map : Keyed κ α) (key : κ) : Bool :=
  (map.get? key).isSome

def erase (map : Keyed κ α) (key : κ) : Keyed κ α :=
  ⟨map.entries.filter fun entry => entry.1 ≠ key⟩

/-- The map with a value at a key, whatever was there before. -/
def insert (map : Keyed κ α) (key : κ) (value : α) : Keyed κ α :=
  ⟨(key, value) :: (map.erase key).entries⟩

def keepValues (map : Keyed κ α) (keep : α → Bool) : Keyed κ α :=
  ⟨map.entries.filter fun entry => keep entry.2⟩

@[simp]
theorem get?_empty (key : κ) : (empty : Keyed κ α).get? key = none := rfl

theorem get?_erase (map : Keyed κ α) (key other : κ) :
    (map.erase key).get? other = if other = key then none else map.get? other := by
  rw [get?, erase, List.find?_filter]
  by_cases h : other = key
  · subst h
    simp
  · rw [if_neg h, get?]
    congr 1
    congr 1
    funext entry
    by_cases hentry : entry.1 = other
    · simp [hentry, h]
    · simp [hentry]

theorem get?_insert (map : Keyed κ α) (key other : κ) (value : α) :
    (map.insert key value).get? other = if other = key then some value else map.get? other := by
  by_cases h : other = key
  · subst h
    simp [insert, get?]
  · have herase := map.get?_erase key other
    rw [if_neg h] at herase ⊢
    rw [← herase, get?, get?, insert, List.find?_cons_of_neg]
    simpa using fun hkey => h hkey.symm

/-- Erasing a key that is there makes the map smaller. -/
theorem size_erase_lt {map : Keyed κ α} {key : κ} {value : α} (h : map.get? key = some value) :
    (map.erase key).size < map.size := by
  obtain ⟨entry, hfound, _⟩ := Option.map_eq_some_iff.mp h
  refine List.length_filter_lt_length_iff_exists.mpr ⟨entry, List.mem_of_find?_eq_some hfound, ?_⟩
  have := List.find?_some hfound
  simpa using this

end Keyed

end SensorGateway
