import SensorGateway.Proofs.Shard.Assembly
import SensorGateway.Proofs.Shard.Piece
import SensorGateway.Shard.Table

/-!
# What one frame does to the table

`Processed` lists everything that processing a frame can do, with the condition under which it does
so and the whole result; `processed` says that there is nothing else. Every statement about the
table goes through these six cases. The first consequence is that a frame touches the reassembly of
its own sensor only.
-/

namespace SensorGateway.ShardTable

def opening (table : ShardTable) (frame : Frame) (piece : ShardPiece) (now : Time) : Assembly :=
  Assembly.start (table.generation + 1) frame.header piece (now + table.timeout)

@[simp]
theorem generation_opening (table : ShardTable) (frame : Frame) (piece : ShardPiece)
    (now : Time) : (table.opening frame piece now).generation = table.generation + 1 :=
  Assembly.start_generation ..

/-- A piece is of the shard that its sensor's reassembly collects. -/
def IsCollecting (table : ShardTable) (identity : Identity) (piece : ShardPiece)
    (assembly : Assembly) : Prop :=
  table.assembly? identity = some assembly ∧ assembly.shard = piece.shard

/-- A piece is of no shard that is being collected, and it is the first one of its own. -/
def IsOpening (table : ShardTable) (identity : Identity) (piece : ShardPiece) : Prop :=
  piece.piece = 0 ∧
    ∀ assembly, table.assembly? identity = some assembly → assembly.shard ≠ piece.shard

/-- A piece is accepted if it opens a reassembly or belongs to one and does not lie past its end. -/
def Admits (table : ShardTable) (identity : Identity) (piece : ShardPiece) : Prop :=
  table.IsOpening identity piece ∨
    ∃ assembly, table.IsCollecting identity piece assembly ∧
      assembly.isPastEnd piece.piece = false

inductive Processed (table : ShardTable) (frame : Frame) (now : Time) :
    ShardTable × PieceOutcome → Prop where
  | whole (hwhole : frame.fragmented = false) :
      Processed table frame now (table, ⟨.accept 0 0, some frame, .keep, none⟩)
  | refused (hpiece : frame.fragmented = true)
      (hrefused : ∀ piece, ShardPiece.parse frame.payload = .ok piece →
        ¬ table.Admits frame.identity piece) :
      Processed table frame now
        (table, refusal (ShardPiece.peek frame.payload).1 (ShardPiece.peek frame.payload).2)
  | opened (piece : ShardPiece) (hpiece : frame.fragmented = true)
      (hparse : ShardPiece.parse frame.payload = .ok piece)
      (hopening : table.IsOpening frame.identity piece)
      (hincomplete : (table.opening frame piece now).isComplete = false) :
      Processed table frame now
        ({ table with
            assemblies := table.assemblies.insert frame.identity (table.opening frame piece now)
            generation := table.generation + 1 },
          ⟨.accept piece.shard piece.piece, none,
            .start (table.generation + 1) (now + table.timeout), some (now + table.timeout)⟩)
  | openedWhole (piece : ShardPiece) (hpiece : frame.fragmented = true)
      (hparse : ShardPiece.parse frame.payload = .ok piece)
      (hopening : table.IsOpening frame.identity piece)
      (hcomplete : (table.opening frame piece now).isComplete = true) :
      Processed table frame now
        ({ table with
            assemblies := table.assemblies.erase frame.identity
            generation := table.generation + 1 },
          ⟨.accept piece.shard piece.piece,
            some ((table.opening frame piece now).toFrame frame.identity), .cancel,
            some (now + table.timeout)⟩)
  | joined (piece : ShardPiece) (assembly : Assembly) (hpiece : frame.fragmented = true)
      (hparse : ShardPiece.parse frame.payload = .ok piece)
      (hcollecting : table.IsCollecting frame.identity piece assembly)
      (hend : assembly.isPastEnd piece.piece = false)
      (hincomplete : (assembly.accept piece (now + table.timeout)).isComplete = false) :
      Processed table frame now
        ({ table with
            assemblies := table.assemblies.insert frame.identity
              (assembly.accept piece (now + table.timeout)) },
          ⟨.accept piece.shard piece.piece, none, .keep,
            if assembly.advancesOn piece.piece then some (now + table.timeout) else none⟩)
  | completed (piece : ShardPiece) (assembly : Assembly) (hpiece : frame.fragmented = true)
      (hparse : ShardPiece.parse frame.payload = .ok piece)
      (hcollecting : table.IsCollecting frame.identity piece assembly)
      (hend : assembly.isPastEnd piece.piece = false)
      (hcomplete : (assembly.accept piece (now + table.timeout)).isComplete = true) :
      Processed table frame now
        ({ table with assemblies := table.assemblies.erase frame.identity },
          ⟨.accept piece.shard piece.piece,
            some ((assembly.accept piece (now + table.timeout)).toFrame frame.identity), .cancel,
            if assembly.advancesOn piece.piece then some (now + table.timeout) else none⟩)

variable (table : ShardTable) (frame : Frame) (now : Time)

private theorem processed_openShard {piece : ShardPiece} (hpiece : frame.fragmented = true)
    (hparse : ShardPiece.parse frame.payload = .ok piece)
    (hopening : table.IsOpening frame.identity piece) :
    Processed table frame now (table.openShard frame piece now) := by
  have hassembly : Assembly.start (table.generation + 1) frame.header piece (now + table.timeout) =
      table.opening frame piece now := rfl
  simp only [openShard, hassembly]
  cases hcomplete : (table.opening frame piece now).isComplete with
  | true => exact .openedWhole piece hpiece hparse hopening hcomplete
  | false => exact .opened piece hpiece hparse hopening hcomplete

private theorem processed_continueShard {piece : ShardPiece} {assembly : Assembly}
    (hpiece : frame.fragmented = true) (hparse : ShardPiece.parse frame.payload = .ok piece)
    (hcollecting : table.IsCollecting frame.identity piece assembly)
    (hend : assembly.isPastEnd piece.piece = false) :
    Processed table frame now (table.continueShard frame.identity assembly piece now) := by
  simp only [continueShard, hend, hcollecting.2]
  cases hcomplete : (assembly.accept piece (now + table.timeout)).isComplete with
  | true => exact .completed piece assembly hpiece hparse hcollecting hend hcomplete
  | false => exact .joined piece assembly hpiece hparse hcollecting hend hcomplete

theorem filter_assembly?_eq_none {identity : Identity} {shard : Nat}
    (hother : ∀ assembly, table.assembly? identity = some assembly → assembly.shard ≠ shard) :
    (table.assembly? identity).filter (·.shard == shard) = none := by
  rw [Option.filter_eq_none_iff]
  intro assembly hfound
  simpa using hother assembly hfound

variable {table} in
theorem IsCollecting.filter_eq {identity : Identity} {piece : ShardPiece} {assembly : Assembly}
    (h : table.IsCollecting identity piece assembly) :
    (table.assembly? identity).filter (·.shard == piece.shard) = some assembly :=
  Option.filter_eq_some_iff.mpr ⟨h.1, beq_iff_eq.mpr h.2⟩

theorem progress_openShard (piece : ShardPiece) :
    (table.openShard frame piece now).2.progress = some (now + table.timeout) := by
  unfold openShard
  dsimp only
  split_ifs
  · rfl
  · rfl

theorem progress_continueShard (identity : Identity) {assembly : Assembly} {piece : ShardPiece}
    (hend : assembly.isPastEnd piece.piece = false) :
    (table.continueShard identity assembly piece now).2.progress =
      if assembly.advancesOn piece.piece then some (now + table.timeout) else none := by
  rw [continueShard, if_neg (Bool.eq_false_iff.mp hend)]
  dsimp only
  split
  · rfl
  · rfl

variable {frame} in
theorem process_of_isCollecting {piece : ShardPiece} {assembly : Assembly}
    (hpiece : frame.fragmented = true) (hparse : ShardPiece.parse frame.payload = .ok piece)
    (hcollecting : table.IsCollecting frame.identity piece assembly) :
    table.process frame now = table.continueShard frame.identity assembly piece now := by
  simp [process, hpiece, hparse, hcollecting.filter_eq]

variable {frame} in
theorem process_of_isOpening {piece : ShardPiece} (hpiece : frame.fragmented = true)
    (hparse : ShardPiece.parse frame.payload = .ok piece)
    (hopening : table.IsOpening frame.identity piece) :
    table.process frame now = table.openShard frame piece now := by
  have hjoin := filter_assembly?_eq_none table hopening.2
  simp [process, hpiece, hparse, hjoin, ShardPiece.isStart, hopening.1]

variable {frame} in
theorem process_of_not_admits {piece : ShardPiece} (hpiece : frame.fragmented = true)
    (hparse : ShardPiece.parse frame.payload = .ok piece)
    (hrefused : ¬ table.Admits frame.identity piece) :
    table.process frame now = (table, refusal piece.shard piece.piece) := by
  by_cases hcollecting : ∃ assembly, table.IsCollecting frame.identity piece assembly
  · obtain ⟨assembly, hcollecting⟩ := hcollecting
    have hend : assembly.isPastEnd piece.piece = true := by
      by_contra hopen
      exact hrefused (Or.inr ⟨assembly, hcollecting, by simpa using hopen⟩)
    rw [process_of_isCollecting table now hpiece hparse hcollecting, continueShard, if_pos hend,
      hcollecting.2]
  · have hother : ∀ assembly, table.assembly? frame.identity = some assembly →
        assembly.shard ≠ piece.shard :=
      fun assembly hfound hshard => hcollecting ⟨assembly, hfound, hshard⟩
    have hlater : piece.piece ≠ 0 := fun hstart => hrefused (Or.inl ⟨hstart, hother⟩)
    have hjoin := filter_assembly?_eq_none table hother
    simp [process, hpiece, hparse, hjoin, ShardPiece.isStart, hlater]

/-- There is nothing else that a frame can do. -/
theorem processed : Processed table frame now (table.process frame now) := by
  cases hfragmented : frame.fragmented with
  | false =>
    have hprocess : table.process frame now = (table, ⟨.accept 0 0, some frame, .keep, none⟩) := by
      simp [process, hfragmented]
    exact hprocess ▸ .whole hfragmented
  | true =>
    cases hparse : ShardPiece.parse frame.payload with
    | error cause =>
      have hprocess : table.process frame now = (table, refusal
          (ShardPiece.peek frame.payload).1 (ShardPiece.peek frame.payload).2) := by
        simp [process, hfragmented, hparse]
      exact hprocess ▸ .refused hfragmented (by simp [hparse])
    | ok piece =>
      by_cases hadmits : table.Admits frame.identity piece
      · rcases hadmits with hopening | ⟨assembly, hcollecting, hend⟩
        · rw [process_of_isOpening table now hfragmented hparse hopening]
          exact processed_openShard table frame now hfragmented hparse hopening
        · rw [process_of_isCollecting table now hfragmented hparse hcollecting]
          exact processed_continueShard table frame now hfragmented hparse hcollecting hend
      · have hrefused : ∀ other, ShardPiece.parse frame.payload = .ok other →
            ¬ table.Admits frame.identity other := by
          intro other hother
          rw [hparse, Except.ok.injEq] at hother
          exact hother ▸ hadmits
        have h : Processed table frame now (table, refusal
            (ShardPiece.peek frame.payload).1 (ShardPiece.peek frame.payload).2) :=
          .refused hfragmented hrefused
        rw [ShardPiece.peek_of_parse hparse] at h
        rwa [process_of_not_admits table now hfragmented hparse hadmits]

variable {table frame now} in
/-- Each outcome has a condition of its own. -/
theorem Processed.process_eq {result : ShardTable × PieceOutcome}
    (h : Processed table frame now result) : table.process frame now = result := by
  cases h with
  | whole hwhole => simp [process, hwhole]
  | refused hpiece hrefused =>
    cases hparse : ShardPiece.parse frame.payload with
    | error cause => simp [process, hpiece, hparse]
    | ok piece =>
      rw [process_of_not_admits table now hpiece hparse (hrefused piece hparse),
        ShardPiece.peek_of_parse hparse]
  | opened piece hpiece hparse hopening hincomplete =>
    rw [process_of_isOpening table now hpiece hparse hopening]
    unfold opening at *
    simp [openShard, hincomplete]
  | openedWhole piece hpiece hparse hopening hcomplete =>
    rw [process_of_isOpening table now hpiece hparse hopening]
    unfold opening at *
    simp [openShard, hcomplete]
  | joined piece assembly hpiece hparse hcollecting hend hincomplete =>
    rw [process_of_isCollecting table now hpiece hparse hcollecting]
    simp [continueShard, hend, hcollecting.2, hincomplete]
  | completed piece assembly hpiece hparse hcollecting hend hcomplete =>
    rw [process_of_isCollecting table now hpiece hparse hcollecting]
    simp [continueShard, hend, hcollecting.2, hcomplete]

variable {frame} in
/-- The table answers a piece under its own numbers, and positively if it accepts it. -/
theorem ack_process (hpiece : frame.fragmented = true) :
    ((table.process frame now).2.ack.shard, (table.process frame now).2.ack.piece) =
        ShardPiece.peek frame.payload ∧
      ((table.process frame now).2.ack.success = true ↔
        ∃ piece, ShardPiece.parse frame.payload = .ok piece ∧
          table.Admits frame.identity piece) := by
  have hcases := table.processed frame now
  cases hprocess : table.process frame now with
  | mk after outcome =>
    rw [hprocess] at hcases
    cases hcases with
    | whole hwhole => simp [hpiece] at hwhole
    | refused _ hrefused =>
      refine ⟨rfl, ?_⟩
      constructor
      · intro hsuccess
        cases hsuccess
      · rintro ⟨piece, hparse, hadmits⟩
        exact absurd hadmits (hrefused piece hparse)
    | opened piece _ hparse hopening =>
      exact ⟨(ShardPiece.peek_of_parse hparse).symm,
        fun _ => ⟨piece, hparse, Or.inl hopening⟩, fun _ => rfl⟩
    | openedWhole piece _ hparse hopening =>
      exact ⟨(ShardPiece.peek_of_parse hparse).symm,
        fun _ => ⟨piece, hparse, Or.inl hopening⟩, fun _ => rfl⟩
    | joined piece assembly _ hparse hcollecting hend =>
      exact ⟨(ShardPiece.peek_of_parse hparse).symm,
        fun _ => ⟨piece, hparse, Or.inr ⟨assembly, hcollecting, hend⟩⟩, fun _ => rfl⟩
    | completed piece assembly _ hparse hcollecting hend =>
      exact ⟨(ShardPiece.peek_of_parse hparse).symm,
        fun _ => ⟨piece, hparse, Or.inr ⟨assembly, hcollecting, hend⟩⟩, fun _ => rfl⟩

@[simp]
theorem assembly?_insert_self (assemblies : Keyed Identity Assembly) (timeout : Time)
    (generation : Nat) (identity : Identity) (assembly : Assembly) :
    ShardTable.assembly? ⟨assemblies.insert identity assembly, timeout, generation⟩ identity =
      some assembly :=
  Keyed.get?_insert_self ..

@[simp]
theorem assembly?_erase_self (assemblies : Keyed Identity Assembly) (timeout : Time)
    (generation : Nat) (identity : Identity) :
    ShardTable.assembly? ⟨assemblies.erase identity, timeout, generation⟩ identity = none :=
  Keyed.get?_erase_self ..

theorem of_assembly?_erase {assemblies : Keyed Identity Assembly} {timeout : Time}
    {generation : Nat} {identity other : Identity} {assembly : Assembly}
    (hfound : ShardTable.assembly? ⟨assemblies.erase identity, timeout, generation⟩ other =
      some assembly) : other ≠ identity ∧ assemblies.get? other = some assembly := by
  have hne : other ≠ identity := by
    rintro rfl
    rw [assembly?_erase_self] at hfound
    cases hfound
  exact ⟨hne, (Keyed.get?_erase_of_ne _ hne).symm.trans hfound⟩

theorem assembly?_process_of_ne {identity : Identity} (hne : identity ≠ frame.identity) :
    (table.process frame now).1.assembly? identity = table.assembly? identity := by
  have h := table.processed frame now
  cases hprocess : table.process frame now with
  | mk after outcome =>
    rw [hprocess] at h
    cases h with
    | whole => rfl
    | refused => rfl
    | opened => exact Keyed.get?_insert_of_ne _ _ hne
    | openedWhole => exact Keyed.get?_erase_of_ne _ hne
    | joined => exact Keyed.get?_insert_of_ne _ _ hne
    | completed => exact Keyed.get?_erase_of_ne _ hne

theorem unmoved_of_not_admits
    (hrefused : frame.fragmented = true → ∀ piece, ShardPiece.parse frame.payload = .ok piece →
      ¬ table.Admits frame.identity piece) :
    (table.process frame now).1 = table ∧ (table.process frame now).2.progress = none := by
  have h := table.processed frame now
  cases hprocess : table.process frame now with
  | mk after outcome =>
    rw [hprocess] at h
    cases h with
    | whole => exact ⟨rfl, rfl⟩
    | refused => exact ⟨rfl, rfl⟩
    | opened piece hpiece hparse hopening =>
      exact absurd (Or.inl hopening) (hrefused hpiece piece hparse)
    | openedWhole piece hpiece hparse hopening =>
      exact absurd (Or.inl hopening) (hrefused hpiece piece hparse)
    | joined piece assembly hpiece hparse hcollecting hend =>
      exact absurd (Or.inr ⟨assembly, hcollecting, hend⟩) (hrefused hpiece piece hparse)
    | completed piece assembly hpiece hparse hcollecting hend =>
      exact absurd (Or.inr ⟨assembly, hcollecting, hend⟩) (hrefused hpiece piece hparse)

theorem process_fst_of_not_admits
    (hrefused : frame.fragmented = true → ∀ piece, ShardPiece.parse frame.payload = .ok piece →
      ¬ table.Admits frame.identity piece) : (table.process frame now).1 = table :=
  (unmoved_of_not_admits table frame now hrefused).1

/-- Where a reassembly that is there after a frame has come from. -/
inductive Origin (table : ShardTable) (frame : Frame) (now : Time) :
    Identity → Assembly → Prop where
  | elsewhere (identity : Identity) (assembly : Assembly) (hne : identity ≠ frame.identity)
      (hfound : table.assembly? identity = some assembly) :
      Origin table frame now identity assembly
  | kept (assembly : Assembly) (hfound : table.assembly? frame.identity = some assembly)
      (hrefused : frame.fragmented = true →
        ∀ piece, ShardPiece.parse frame.payload = .ok piece →
          ¬ table.Admits frame.identity piece) :
      Origin table frame now frame.identity assembly
  | opened (piece : ShardPiece) (hpiece : frame.fragmented = true)
      (hparse : ShardPiece.parse frame.payload = .ok piece)
      (hopening : table.IsOpening frame.identity piece) :
      Origin table frame now frame.identity (table.opening frame piece now)
  | joined (piece : ShardPiece) (previous : Assembly) (hpiece : frame.fragmented = true)
      (hparse : ShardPiece.parse frame.payload = .ok piece)
      (hcollecting : table.IsCollecting frame.identity piece previous)
      (hend : previous.isPastEnd piece.piece = false) :
      Origin table frame now frame.identity (previous.accept piece (now + table.timeout))

variable {table frame now} in
theorem origin_of_assembly?_process {identity : Identity} {assembly : Assembly}
    (hfound : (table.process frame now).1.assembly? identity = some assembly) :
    Origin table frame now identity assembly := by
  by_cases hne : identity ≠ frame.identity
  · rw [assembly?_process_of_ne table frame now hne] at hfound
    exact .elsewhere identity assembly hne hfound
  obtain rfl : identity = frame.identity := by simpa using hne
  have hcases := table.processed frame now
  cases hprocess : table.process frame now with
  | mk after outcome =>
    rw [hprocess] at hcases hfound
    cases hcases with
    | whole hwhole => exact .kept assembly hfound (by simp [hwhole])
    | refused _ hrefused => exact .kept assembly hfound fun _ => hrefused
    | opened piece hpiece hparse hopening =>
      rw [assembly?_insert_self, Option.some.injEq] at hfound
      exact hfound ▸ .opened piece hpiece hparse hopening
    | openedWhole => simp at hfound
    | joined piece previous hpiece hparse hcollecting hend =>
      rw [assembly?_insert_self, Option.some.injEq] at hfound
      exact hfound ▸ .joined piece previous hpiece hparse hcollecting hend
    | completed => simp at hfound

/-- Which complete reassembly a piece makes a whole frame of. -/
inductive Completion (table : ShardTable) (frame : Frame) (now : Time) : Frame → Prop where
  | opened (piece : ShardPiece) (hparse : ShardPiece.parse frame.payload = .ok piece)
      (hopening : table.IsOpening frame.identity piece)
      (hcomplete : (table.opening frame piece now).isComplete = true) :
      Completion table frame now ((table.opening frame piece now).toFrame frame.identity)
  | joined (piece : ShardPiece) (previous : Assembly)
      (hparse : ShardPiece.parse frame.payload = .ok piece)
      (hcollecting : table.IsCollecting frame.identity piece previous)
      (hend : previous.isPastEnd piece.piece = false)
      (hcomplete : (previous.accept piece (now + table.timeout)).isComplete = true) :
      Completion table frame now
        ((previous.accept piece (now + table.timeout)).toFrame frame.identity)

variable {table frame now} in
theorem completion_of_process {whole : Frame} (hpiece : frame.fragmented = true)
    (hwhole : (table.process frame now).2.completed = some whole) :
    Completion table frame now whole := by
  have hcases := table.processed frame now
  cases hprocess : table.process frame now with
  | mk after outcome =>
    rw [hprocess] at hwhole hcases
    cases hcases with
    | whole hunfragmented => simp [hpiece] at hunfragmented
    | refused => cases hwhole
    | opened => cases hwhole
    | joined => cases hwhole
    | openedWhole piece _ hparse hopening hcomplete =>
      exact Option.some.inj hwhole ▸ .opened piece hparse hopening hcomplete
    | completed piece previous _ hparse hcollecting hend hcomplete =>
      exact Option.some.inj hwhole ▸ .joined piece previous hparse hcollecting hend hcomplete

@[simp]
theorem timeout_process : (table.process frame now).1.timeout = table.timeout := by
  have h := table.processed frame now
  cases hprocess : table.process frame now with
  | mk after outcome =>
    rw [hprocess] at h
    cases h <;> rfl

/-- A wake-up takes the reassembly of its sensor away or leaves the table as it is. -/
theorem expire_fst_eq_or (table : ShardTable) (identity : Identity) (generation : Nat)
    (now : Time) :
    (table.expire identity generation now).1 = table ∨
      (table.expire identity generation now).1 =
        { table with assemblies := table.assemblies.erase identity } := by
  unfold expire
  split
  · exact Or.inl rfl
  · split_ifs
    · exact Or.inl rfl
    · exact Or.inl rfl
    · exact Or.inr rfl

theorem of_assembly?_expire {table : ShardTable} {identity other : Identity} {generation : Nat}
    {now : Time} {assembly : Assembly}
    (hfound : (table.expire identity generation now).1.assembly? other = some assembly) :
    table.assembly? other = some assembly := by
  rcases table.expire_fst_eq_or identity generation now with hexpire | hexpire
  · rwa [hexpire] at hfound
  · rw [hexpire] at hfound
    exact (of_assembly?_erase hfound).2

end SensorGateway.ShardTable
