import SensorGateway.Bytes.Word

/-!
# Cutting a byte string into pieces

A payload too long for one frame, and the lines of a dump, are consecutive runs of equal length.
The runs concatenate to the byte string they were cut from, and only the last one can be shorter.
-/

namespace SensorGateway.Bytes

def chunksWithin (size : Nat) : Nat → Bytes → List Bytes
  | 0, _ => []
  | _ + 1, [] => []
  | count + 1, first :: rest =>
    (first :: rest.take (size - 1)) :: chunksWithin size count (rest.drop (size - 1))

/-- Consecutive runs of `size` bytes, the last one possibly shorter; runs of one byte when `size`
is zero. -/
def chunks (size : Nat) (bytes : Bytes) : List Bytes :=
  chunksWithin size bytes.length bytes

@[simp]
theorem chunks_nil (size : Nat) : chunks size [] = [] := rfl

theorem flatten_chunksWithin (size count : Nat) (bytes : Bytes) (h : bytes.length ≤ count) :
    (chunksWithin size count bytes).flatten = bytes := by
  induction count generalizing bytes with
  | zero => simp [chunksWithin, List.eq_nil_of_length_eq_zero (Nat.le_zero.mp h)]
  | succ count ih =>
    cases bytes with
    | nil => rfl
    | cons first rest =>
      have hrest : (rest.drop (size - 1)).length ≤ count := by
        simp only [List.length_cons] at h
        simp only [List.length_drop]
        omega
      rw [chunksWithin, List.flatten_cons, ih _ hrest, List.cons_append, List.take_append_drop]

/-- Cutting loses nothing and keeps the order. -/
theorem flatten_chunks (size : Nat) (bytes : Bytes) : (chunks size bytes).flatten = bytes :=
  flatten_chunksWithin size bytes.length bytes (Nat.le_refl _)

end SensorGateway.Bytes
