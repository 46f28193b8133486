import Mathlib.Algebra.GroupWithZero.Nat
import Mathlib.Algebra.Order.BigOperators.Group.List
import Mathlib.Algebra.Order.Group.Nat
import Mathlib.Data.List.Perm.Subperm
import SensorGateway.Proofs.Shard.Episodes
import SensorGateway.Proofs.Shard.History

/-!
# What a reassembly can hold

There are `128` piece numbers, and a reassembly keeps one body for each of them at most: it appends
the body of each number below the expected one, and those that wait have different numbers from
there on. A piece carries `65535` bytes at most, so this bounds the memory that a reassembly takes
(`Backed.stored_le`), whatever arrives and however often. A number that has been accepted before is
never progress again.
-/

namespace SensorGateway

theorem sum_le_length_mul {lengths : List Nat} {bound : Nat}
    (hle : ∀ length ∈ lengths, length ≤ bound) : lengths.sum ≤ lengths.length * bound :=
  calc lengths.sum ≤ lengths.length • bound := List.sum_le_card_nsmul lengths bound hle
    _ = lengths.length * bound := Nat.nsmul_eq_mul _ _

theorem Joins.length_le {received : List ShardPiece} {count bound : Nat} {bytes : Bytes}
    (h : Joins received count bytes) (hlength : ∀ piece ∈ received, piece.data.length ≤ bound) :
    bytes.length ≤ count * bound := by
  obtain ⟨bodies, rfl, rfl, hbodies⟩ := h
  rw [List.length_flatten]
  refine (sum_le_length_mul ?_).trans_eq (by rw [List.length_map])
  intro length hmem
  obtain ⟨body, hbody, rfl⟩ := List.mem_map.mp hmem
  obtain ⟨number, hnumber⟩ := List.mem_iff_getElem?.mp hbody
  obtain ⟨piece, hpiece, _, rfl⟩ := hbodies number body hnumber
  exact hlength piece hpiece

namespace Assembly

variable {assembly : Assembly} {received : List ShardPiece} {piece : ShardPiece}

/-! ### No number waits twice -/

theorem unique_merge (count : Nat) (hunique : assembly.early.Unique) :
    (merge count assembly).early.Unique := by
  induction count generalizing assembly with
  | zero => exact hunique
  | succ count ih =>
    rw [merge]
    split
    · exact hunique
    · exact ih (hunique.erase assembly.expected)

theorem unique_append (hunique : assembly.early.Unique) (data : Bytes) :
    (assembly.append data).early.Unique :=
  unique_merge _ hunique

theorem unique_start (generation : Nat) (header : Header) (piece : ShardPiece)
    (deadline : Time) : (start generation header piece deadline).early.Unique :=
  unique_append Keyed.unique_empty piece.data

theorem unique_accept (hunique : assembly.early.Unique) (piece : ShardPiece) (deadline : Time) :
    (assembly.accept piece deadline).early.Unique := by
  rcases Nat.lt_trichotomy piece.piece assembly.expected with hlow | hturn | hhigh
  · rw [accept_of_lt _ deadline hlow]
    exact hunique
  · rw [accept_of_eq _ deadline hturn]
    exact unique_append hunique piece.data
  · rw [accept_of_gt _ deadline hhigh]
    exact hunique.insert piece.piece piece.data

/-! ### One body for each number -/

/-- The bytes that have been appended and those that wait. -/
def stored (assembly : Assembly) : Nat :=
  assembly.accumulated.length + (assembly.early.entries.map fun entry => entry.2.length).sum

/-- The pieces that a reassembly has accepted have been read off frames. -/
structure Backed (assembly : Assembly) (received : List ShardPiece) : Prop where
  accounted : assembly.Accounted received
  unique : assembly.early.Unique
  piece_lt : ∀ piece ∈ received, piece.piece < ShardPiece.maximumPieces
  length_le : ∀ piece ∈ received, piece.data.length ≤ ShardPiece.maximumLength

theorem backed_start (generation : Nat) (header : Header) {payload : Bytes}
    (hparse : ShardPiece.parse payload = .ok piece) (hfirst : piece.piece = 0) (deadline : Time) :
    (start generation header piece deadline).Backed [piece] where
  accounted := accounted_start generation header hfirst deadline
  unique := unique_start generation header piece deadline
  piece_lt := List.forall_mem_singleton.mpr (ShardPiece.piece_lt_of_parse hparse)
  length_le := List.forall_mem_singleton.mpr (ShardPiece.length_le_of_parse hparse)

theorem Backed.accept (h : assembly.Backed received) {payload : Bytes}
    (hparse : ShardPiece.parse payload = .ok piece) (hshard : piece.shard = assembly.shard)
    (deadline : Time) : (assembly.accept piece deadline).Backed (received ++ [piece]) where
  accounted := h.accounted.accept hshard deadline
  unique := unique_accept h.unique piece deadline
  piece_lt := List.forall_mem_append.mpr
    ⟨h.piece_lt, List.forall_mem_singleton.mpr (ShardPiece.piece_lt_of_parse hparse)⟩
  length_le := List.forall_mem_append.mpr
    ⟨h.length_le, List.forall_mem_singleton.mpr (ShardPiece.length_le_of_parse hparse)⟩

theorem Backed.expected_le (h : assembly.Backed received) :
    assembly.expected ≤ ShardPiece.maximumPieces := by
  by_contra hover
  obtain ⟨piece, hmem, hnumber⟩ := h.accounted.holds.exists_of_lt (Nat.not_le.mp hover)
  exact absurd (h.piece_lt piece hmem) (hnumber ▸ Nat.lt_irrefl _)

theorem Backed.waiting (h : assembly.Backed received) {entry : Nat × Bytes}
    (hmem : entry ∈ assembly.early.entries) :
    assembly.expected ≤ entry.1 ∧ entry.1 < ShardPiece.maximumPieces ∧
      entry.2.length ≤ ShardPiece.maximumLength := by
  have hget := h.unique.get?_eq_some_iff.mpr hmem
  obtain ⟨hle, piece, hpiece, hnumber, hdata⟩ := h.accounted.holds.waiting _ _ hget
  rw [← hnumber, ← hdata]
  exact ⟨hnumber ▸ hle, h.piece_lt piece hpiece, h.length_le piece hpiece⟩

/-- The numbers that wait are different ones between the expected number and the last one. -/
theorem Backed.waiting_le (h : assembly.Backed received) :
    assembly.expected + assembly.early.entries.length ≤ ShardPiece.maximumPieces := by
  have hexpected := h.expected_le
  have hsub : assembly.early.entries.map Prod.fst ⊆
      List.range' assembly.expected (ShardPiece.maximumPieces - assembly.expected) := by
    intro number hmem
    obtain ⟨entry, hentry, rfl⟩ := List.mem_map.mp hmem
    obtain ⟨hle, hlt, _⟩ := h.waiting hentry
    rw [List.mem_range'_1]
    omega
  have hlength := (List.Nodup.subperm h.unique hsub).length_le
  rw [List.length_map, List.length_range'] at hlength
  omega

theorem Backed.stored_le (h : assembly.Backed received) :
    assembly.stored ≤ ShardPiece.maximumPieces * ShardPiece.maximumLength := by
  have haccumulated := h.accounted.holds.joins.length_le h.length_le
  have hwaiting : (assembly.early.entries.map fun entry => entry.2.length).sum ≤
      assembly.early.entries.length * ShardPiece.maximumLength := by
    refine (sum_le_length_mul ?_).trans_eq (by rw [List.length_map])
    intro length hmem
    obtain ⟨entry, hentry, rfl⟩ := List.mem_map.mp hmem
    exact (h.waiting hentry).2.2
  calc assembly.stored
      ≤ assembly.expected * ShardPiece.maximumLength +
          assembly.early.entries.length * ShardPiece.maximumLength :=
        Nat.add_le_add haccumulated hwaiting
    _ = (assembly.expected + assembly.early.entries.length) * ShardPiece.maximumLength :=
        (Nat.add_mul _ _ _).symm
    _ ≤ ShardPiece.maximumPieces * ShardPiece.maximumLength :=
        Nat.mul_le_mul_right _ h.waiting_le

theorem Backed.accumulated_le (h : assembly.Backed received) :
    assembly.accumulated.length ≤ ShardPiece.maximumPieces * ShardPiece.maximumLength :=
  Nat.le_trans (Nat.le_add_right _ _) h.stored_le

/-! ### Every number advances once -/

theorem Backed.has_of_mem (h : assembly.Backed received) (hmem : piece ∈ received) :
    assembly.Has piece.piece := by
  obtain ⟨hholds, hsettled, _⟩ := h.accounted
  rcases hholds.kept piece hmem with hlow | ⟨body, hbody⟩
  · exact Or.inl hlow
  · have hle := (hholds.waiting _ _ hbody).1
    have hne := hholds.piece_ne_expected hsettled hmem
    refine Or.inr ⟨by omega, ?_⟩
    rw [Keyed.contains, hbody, Option.isSome_some]

theorem Backed.piece_ne_of_advancesOn (h : assembly.Backed received) {number : Nat}
    (hadvances : assembly.advancesOn number = true) :
    ∀ piece ∈ received, piece.piece ≠ number := by
  rintro piece hmem rfl
  have hstays := (assembly.advancesOn_eq_false_iff piece.piece).mpr (h.has_of_mem hmem)
  rw [hadvances] at hstays
  cases hstays

end Assembly

end SensorGateway
