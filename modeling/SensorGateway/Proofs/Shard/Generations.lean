import SensorGateway.Proofs.Shard.Table

/-!
# Generations

A reassembly is told apart from all others of its table by its generation. `Ordered` says so of a
table, and `Follows` says how the generations of a table can change in one step: some may go, and
only the next one may come. What can go is said for each step: a frame takes away a reassembly of
its own sensor only, by completing it or by opening another shard, and a timer takes away the
reassembly of its own generation only.
-/

namespace SensorGateway.ShardTable

def generations (table : ShardTable) : List Nat :=
  table.assemblies.entries.map fun entry => entry.2.generation

/-- Every sensor has one reassembly at most, and every reassembly a generation of its own, one of
those that have been given out. -/
structure Ordered (table : ShardTable) : Prop where
  unique : table.assemblies.Unique
  nodup : table.generations.Nodup
  le : ∀ generation ∈ table.generations, generation ≤ table.generation

/-- A table that one step may lead to. -/
structure Follows (before after : ShardTable) : Prop where
  ordered : after.Ordered
  le : before.generation ≤ after.generation
  fresh : ∀ generation ∈ after.generations,
    generation ∈ before.generations ∨ generation = before.generation + 1

variable {table : ShardTable} {identity : Identity} {assembly : Assembly} {frame : Frame}
  {generation : Nat} {now : Time}

theorem mem_generations_of_assembly? (hfound : table.assembly? identity = some assembly) :
    assembly.generation ∈ table.generations :=
  List.mem_map_of_mem (Keyed.mem_entries_of_get? hfound)

theorem Ordered.mem_generations_iff (h : table.Ordered) :
    generation ∈ table.generations ↔
      ∃ identity assembly, table.assembly? identity = some assembly ∧
        assembly.generation = generation := by
  constructor
  · intro hmem
    obtain ⟨⟨identity, assembly⟩, hentry, rfl⟩ := List.mem_map.mp hmem
    exact ⟨identity, assembly, h.unique.get?_eq_some_iff.mpr hentry, rfl⟩
  · rintro ⟨identity, assembly, hfound, rfl⟩
    exact mem_generations_of_assembly? hfound

theorem Ordered.assembly_unique (h : table.Ordered) {other : Identity} {another : Assembly}
    (hfound : table.assembly? identity = some assembly)
    (hother : table.assembly? other = some another)
    (hsame : assembly.generation = another.generation) :
    identity = other ∧ assembly = another := by
  have hpair := List.inj_on_of_nodup_map h.nodup (Keyed.mem_entries_of_get? hfound)
    (Keyed.mem_entries_of_get? hother) hsame
  exact ⟨congrArg Prod.fst hpair, congrArg Prod.snd hpair⟩

/-! ### How the generations change -/

theorem Ordered.follows_self (h : table.Ordered) : table.Follows table :=
  ⟨h, Nat.le_refl _, fun _ hmem => Or.inl hmem⟩

theorem Ordered.follows_erase (h : table.Ordered) (identity : Identity)
    (hle : table.generation ≤ generation) :
    table.Follows
      { table with assemblies := table.assemblies.erase identity, generation } := by
  have hsublist : List.Sublist
      (generations { table with assemblies := table.assemblies.erase identity, generation })
      table.generations := List.filter_sublist.map _
  refine ⟨⟨h.unique.erase identity, h.nodup.sublist hsublist, fun other hmem => ?_⟩, hle,
    fun other hmem => Or.inl (hsublist.subset hmem)⟩
  exact Nat.le_trans (h.le other (hsublist.subset hmem)) hle

/-- A reassembly may be put in if its generation is the next one or that of the reassembly which it
replaces. -/
theorem Ordered.follows_insert (h : table.Ordered)
    (hle : table.generation ≤ generation) (hgiven : assembly.generation ≤ generation)
    (hnext : assembly.generation = table.generation + 1 ∨
      ∃ old, table.assembly? identity = some old ∧ old.generation = assembly.generation) :
    table.Follows
      { table with
        assemblies := table.assemblies.insert identity assembly
        generation } := by
  have herase := h.follows_erase identity hle
  have hnot : assembly.generation ∉
      generations { table with assemblies := table.assemblies.erase identity, generation } := by
    intro hmem
    rcases hnext with hnext | ⟨old, hold, hsame⟩
    · have hlow : assembly.generation ≤ table.generation :=
        h.le _ ((List.filter_sublist.map _).subset hmem)
      omega
    · obtain ⟨other, another, hother, heq⟩ := herase.ordered.mem_generations_iff.mp hmem
      by_cases hidentity : other = identity
      · rw [hidentity, assembly?_erase_self] at hother
        cases hother
      · have hkept : table.assembly? other = some another :=
          (Keyed.get?_erase_of_ne _ hidentity).symm.trans hother
        exact hidentity (h.assembly_unique hkept hold (heq.trans hsame.symm)).1
  refine ⟨⟨h.unique.insert identity assembly, ?_, ?_⟩, hle, ?_⟩
  · exact List.nodup_cons.mpr ⟨hnot, herase.ordered.nodup⟩
  · rintro other (_ | ⟨_, hmem⟩)
    · exact hgiven
    · exact herase.ordered.le other hmem
  · rintro other (_ | ⟨_, hmem⟩)
    · rcases hnext with hnext | ⟨old, hold, hsame⟩
      · exact Or.inr hnext
      · refine Or.inl ?_
        change assembly.generation ∈ table.generations
        exact hsame ▸ mem_generations_of_assembly? hold
    · exact herase.fresh other hmem

theorem Ordered.follows_process (h : table.Ordered) (frame : Frame) (now : Time) :
    table.Follows (table.process frame now).1 := by
  have hcases := table.processed frame now
  cases hprocess : table.process frame now with
  | mk after outcome =>
    rw [hprocess] at hcases
    cases hcases with
    | whole => exact h.follows_self
    | refused => exact h.follows_self
    | opened piece =>
      have hgeneration := table.generation_opening frame piece now
      exact h.follows_insert (Nat.le_succ _) (Nat.le_of_eq hgeneration) (Or.inl hgeneration)
    | openedWhole => exact h.follows_erase frame.identity (Nat.le_succ _)
    | joined piece previous _ _ hcollecting =>
      have hgeneration : (previous.accept piece (now + table.timeout)).generation =
          previous.generation := by simp
      have hgiven := h.le _ (mem_generations_of_assembly? hcollecting.1)
      exact h.follows_insert (Nat.le_refl _) (hgeneration ▸ hgiven)
        (Or.inr ⟨previous, hcollecting.1, hgeneration.symm⟩)
    | completed => exact h.follows_erase frame.identity (Nat.le_refl _)

theorem Ordered.follows_expire (h : table.Ordered) (identity : Identity) (generation : Nat)
    (now : Time) : table.Follows (table.expire identity generation now).1 := by
  rcases table.expire_fst_eq_or identity generation now with hexpire | hexpire
  · rw [hexpire]
    exact h.follows_self
  · rw [hexpire]
    exact h.follows_erase identity (Nat.le_refl _)

theorem follows_drain (table : ShardTable) : table.Follows table.drain.1 where
  ordered := ⟨Keyed.unique_empty, List.nodup_nil, fun _ hmem => nomatch hmem⟩
  le := Nat.le_refl _
  fresh := fun _ hmem => nomatch hmem

/-- The reassembly of a sensor is taken away by a frame of this sensor, which completes it or begins
another shard. -/
theorem gone_process (hfound : table.assembly? identity = some assembly)
    (hgone : assembly.generation ∉ (table.process frame now).1.generations) :
    identity = frame.identity ∧ ∃ piece, ShardPiece.parse frame.payload = .ok piece ∧
      ((assembly.shard = piece.shard ∧
          ∃ whole, (table.process frame now).2.completed = some whole) ∨
        (assembly.shard ≠ piece.shard ∧ piece.piece = 0)) := by
  by_cases hne : identity ≠ frame.identity
  · have hkept := (assembly?_process_of_ne table frame now hne).trans hfound
    exact absurd (mem_generations_of_assembly? hkept) hgone
  obtain rfl : identity = frame.identity := by simpa using hne
  refine ⟨rfl, ?_⟩
  have hcases := table.processed frame now
  cases hprocess : table.process frame now with
  | mk after outcome =>
    rw [hprocess] at hcases hgone
    cases hcases with
    | whole => exact absurd (mem_generations_of_assembly? hfound) hgone
    | refused => exact absurd (mem_generations_of_assembly? hfound) hgone
    | opened piece _ hparse hopening =>
      exact ⟨piece, hparse, Or.inr ⟨hopening.2 assembly hfound, hopening.1⟩⟩
    | openedWhole piece _ hparse hopening =>
      exact ⟨piece, hparse, Or.inr ⟨hopening.2 assembly hfound, hopening.1⟩⟩
    | joined piece previous _ _ hcollecting =>
      obtain rfl := Option.some.inj (hfound.symm.trans hcollecting.1)
      refine absurd (List.mem_cons.mpr (Or.inl ?_)) hgone
      exact (Assembly.accept_generation assembly piece _).symm
    | completed piece previous _ hparse hcollecting =>
      obtain rfl := Option.some.inj (hfound.symm.trans hcollecting.1)
      exact ⟨piece, hparse, Or.inl ⟨hcollecting.2, _, rfl⟩⟩

/-! ### What a timer finds -/

theorem expire_of_ne
    (hother : ∀ assembly, table.assembly? identity = some assembly →
      assembly.generation ≠ generation) (now : Time) :
    table.expire identity generation now = (table, .gone) := by
  rw [expire]
  cases hfound : table.assembly? identity with
  | none => rfl
  | some assembly =>
    dsimp only
    rw [if_pos (hother assembly hfound)]

theorem expire_of_early (hfound : table.assembly? identity = some assembly)
    (hearly : now < assembly.deadline) :
    table.expire identity assembly.generation now = (table, .pending assembly.deadline) := by
  simp [expire, hfound, hearly]

theorem expire_of_late (hfound : table.assembly? identity = some assembly)
    (hlate : assembly.deadline ≤ now) :
    table.expire identity assembly.generation now =
      ({ table with assemblies := table.assemblies.erase identity },
        .evicted (.reject assembly.shard assembly.lastPiece)) := by
  simp [expire, hfound, Nat.not_lt.mpr hlate]

end SensorGateway.ShardTable
