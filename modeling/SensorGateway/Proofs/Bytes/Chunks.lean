import Mathlib.Algebra.Order.Floor.Div
import Mathlib.Data.List.Basic
import SensorGateway.Bytes.Chunks

/-!
# Where a byte string is cut

The run at a number begins at that multiple of the length, if the bytes reach so far. So the number
of runs is the quotient of the lengths, rounded up, and only the last run can be short; none is if
the length of the byte string is a multiple, and then cutting undoes joining (`chunks_flatten`).
-/

namespace SensorGateway.Bytes

variable {size number : Nat} {bytes run : Bytes}

theorem chunksWithin_cons (size count : Nat) (first : UInt8) (rest : Bytes) :
    chunksWithin size (count + 1) (first :: rest) =
      (first :: rest).take (max size 1) ::
        chunksWithin size count ((first :: rest).drop (max size 1)) := by
  obtain ⟨width, hwidth⟩ : ∃ width, max size 1 = width + 1 := ⟨max size 1 - 1, by omega⟩
  have hsize : size - 1 = width := by omega
  rw [chunksWithin, hwidth, hsize, List.take_succ_cons, List.drop_succ_cons]

theorem length_le_of_mem_chunksWithin {size count : Nat} {bytes run : Bytes}
    (hmem : run ∈ chunksWithin size count bytes) : run.length ≤ max size 1 := by
  induction count generalizing bytes with
  | zero => simp [chunksWithin] at hmem
  | succ count ih =>
    cases bytes with
    | nil => simp [chunksWithin] at hmem
    | cons first rest =>
      rw [chunksWithin, List.mem_cons] at hmem
      rcases hmem with rfl | hmem
      · simp only [List.length_cons, List.length_take]
        omega
      · exact ih hmem

theorem chunks_ne_nil {size : Nat} {bytes : Bytes} (hne : bytes ≠ []) :
    chunks size bytes ≠ [] := by
  intro hnil
  have hflatten := flatten_chunks size bytes
  rw [hnil] at hflatten
  exact hne hflatten.symm

/-- The run at a number begins at that multiple of the length, if the bytes reach so far. -/
theorem getElem?_chunksWithin {count : Nat} (hcount : bytes.length ≤ count) (number : Nat) :
    (chunksWithin size count bytes)[number]? =
      if number * max size 1 < bytes.length then
        some ((bytes.drop (number * max size 1)).take (max size 1))
      else none := by
  have hpos : 0 < max size 1 := by omega
  induction count generalizing bytes number with
  | zero =>
    rw [List.eq_nil_of_length_eq_zero (Nat.le_zero.mp hcount)]
    rfl
  | succ count ih =>
    cases bytes with
    | nil => rfl
    | cons first rest =>
      rw [chunksWithin_cons]
      cases number with
      | zero => simp
      | succ number =>
        have hrest : ((first :: rest).drop (max size 1)).length ≤ count := by
          rw [List.length_drop]
          omega
        rw [List.getElem?_cons_succ, ih hrest, List.drop_drop, List.length_drop, Nat.succ_mul,
          Nat.add_comm (max size 1)]
        congr 1
        rw [eq_iff_iff]
        omega

theorem getElem?_chunks (size : Nat) (bytes : Bytes) (number : Nat) :
    (chunks size bytes)[number]? =
      if number * max size 1 < bytes.length then
        some ((bytes.drop (number * max size 1)).take (max size 1))
      else none :=
  getElem?_chunksWithin (Nat.le_refl _) number

theorem lt_length_chunks_iff :
    number < (chunks size bytes).length ↔ number * max size 1 < bytes.length := by
  rw [← not_iff_not, Nat.not_lt, ← List.getElem?_eq_none_iff, getElem?_chunks]
  split_ifs with hlt <;> simp [hlt]

theorem length_chunks (size : Nat) (bytes : Bytes) :
    (chunks size bytes).length = bytes.length ⌈/⌉ max size 1 := by
  have hpos : 0 < max size 1 := by omega
  refine eq_of_forall_lt_iff fun number => ?_
  rw [lt_length_chunks_iff, ← not_iff_not, Nat.not_lt, Nat.not_lt, ceilDiv_le_iff_le_mul hpos,
    Nat.mul_comm]

theorem length_of_getElem?_chunks (hrun : (chunks size bytes)[number]? = some run) :
    run.length = min (max size 1) (bytes.length - number * max size 1) := by
  rw [getElem?_chunks] at hrun
  split_ifs at hrun
  cases hrun
  rw [List.length_take, List.length_drop]

/-! ### Byte strings that are cut evenly -/

theorem length_of_mem_chunks (hpos : 0 < size) (hdvd : size ∣ bytes.length)
    (hmem : run ∈ chunks size bytes) : run.length = size := by
  obtain ⟨number, hrun⟩ := List.mem_iff_getElem?.mp hmem
  have hbegins := lt_length_chunks_iff.mp (List.getElem?_eq_some_iff.mp hrun).1
  have hlength := length_of_getElem?_chunks hrun
  rw [Nat.max_eq_left hpos] at hbegins hlength
  obtain ⟨count, hcount⟩ := hdvd
  rw [hcount, Nat.mul_comm] at hbegins
  have hnumber : number + 1 ≤ count := Nat.lt_of_mul_lt_mul_left hbegins
  have hfits : size ≤ bytes.length - number * size := by
    have hmul := Nat.mul_le_mul_left size hnumber
    rw [Nat.mul_add, Nat.mul_one] at hmul
    rw [hcount, Nat.mul_comm number]
    omega
  rw [hlength, Nat.min_eq_left hfits]

theorem length_flatten_of_forall_mem {runs : List Bytes}
    (hlength : ∀ run ∈ runs, run.length = size) : runs.flatten.length = runs.length * size := by
  rw [List.length_flatten, List.map_congr_left hlength, List.map_const', List.sum_replicate_nat]

theorem chunks_flatten (hpos : 0 < size) {runs : List Bytes}
    (hlength : ∀ run ∈ runs, run.length = size) : chunks size runs.flatten = runs := by
  have hwithin : ∀ count, runs.flatten.length ≤ count →
      chunksWithin size count runs.flatten = runs := by
    induction runs with
    | nil =>
      intro count _
      cases count <;> rfl
    | cons run rest ih =>
      intro count hcount
      rw [List.forall_mem_cons] at hlength
      obtain ⟨hrun, hrest⟩ := hlength
      rw [List.flatten_cons] at hcount ⊢
      rw [List.length_append, hrun] at hcount
      obtain ⟨first, more, hcons⟩ := List.exists_cons_of_length_pos
        (by rw [List.length_append]; omega : 0 < (run ++ rest.flatten).length)
      obtain ⟨count, rfl⟩ := Nat.exists_eq_succ_of_ne_zero (by omega : count ≠ 0)
      rw [hcons, Nat.succ_eq_add_one, chunksWithin_cons, ← hcons, Nat.max_eq_left hpos,
        List.take_left' hrun, List.drop_left' hrun, ih hrest count (by omega)]
  exact hwithin _ (Nat.le_refl _)

end SensorGateway.Bytes
