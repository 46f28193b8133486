import SensorGateway.Proofs.Shard.Table

/-!
# Which pieces are accepted, and what comes twice

`Welcomes` reads the acceptance rule off the entry of the sending sensor alone. A piece outside the
rule is answered negatively and leaves no trace in the table at all, whichever of the checks it
fails. A piece inside the rule that completes nothing may come again at any time: it is found below
the expected number or among the pieces that wait, so the second time it is answered as before and
changes nothing. Neither statement needs an invariant of the tables that calls lead to.
-/

namespace SensorGateway.ShardTable

/-- The entry of a sensor, or its absence, lets a piece in. -/
inductive Welcomes : Option Assembly → ShardPiece → Prop where
  | opens {piece : ShardPiece} (hfirst : piece.piece = 0) : Welcomes none piece
  | supersedes {assembly : Assembly} {piece : ShardPiece} (hother : assembly.shard ≠ piece.shard)
      (hfirst : piece.piece = 0) : Welcomes (some assembly) piece
  | continues {assembly : Assembly} {piece : ShardPiece} (hshard : assembly.shard = piece.shard)
      (hend : ∀ last, assembly.final = some last → piece.piece ≤ last) :
      Welcomes (some assembly) piece

variable {table : ShardTable} {frame : Frame} {identity : Identity} {piece : ShardPiece}
  {now : Time}

theorem admits_iff_welcomes :
    table.Admits identity piece ↔ Welcomes (table.assembly? identity) piece := by
  constructor
  · rintro (⟨hfirst, hother⟩ | ⟨assembly, ⟨hfound, hshard⟩, hend⟩)
    · cases hfound : table.assembly? identity with
      | none => exact .opens hfirst
      | some assembly => exact .supersedes (hother assembly hfound) hfirst
    · rw [hfound]
      exact .continues hshard (Assembly.isPastEnd_eq_false_iff.mp hend)
  · intro hwelcome
    cases hfound : table.assembly? identity with
    | none =>
      rw [hfound] at hwelcome
      cases hwelcome with
      | opens hfirst => exact Or.inl ⟨hfirst, by simp [hfound]⟩
    | some assembly =>
      rw [hfound] at hwelcome
      cases hwelcome with
      | supersedes hother hfirst =>
        refine Or.inl ⟨hfirst, fun other hotherFound => ?_⟩
        rw [hfound, Option.some.injEq] at hotherFound
        exact hotherFound ▸ hother
      | continues hshard hend =>
        exact Or.inr ⟨assembly, ⟨hfound, hshard⟩, Assembly.isPastEnd_eq_false_iff.mpr hend⟩

/-- Whatever a negative answer is due to, nothing else comes of the piece. -/
theorem process_of_rejected (hreject : (table.process frame now).2.ack.success = false) :
    table.process frame now =
      (table, refusal (ShardPiece.peek frame.payload).1 (ShardPiece.peek frame.payload).2) := by
  have hcases := table.processed frame now
  cases hprocess : table.process frame now with
  | mk after outcome =>
    rw [hprocess] at hcases hreject
    cases hcases with
    | refused => rfl
    | whole => cases hreject
    | opened => cases hreject
    | openedWhole => cases hreject
    | joined => cases hreject
    | completed => cases hreject

/-- **Which pieces are accepted.** Exactly the welcome ones are; a rejected piece leaves the table
as it was; and either answer repeats the numbers that the payload begins with. -/
theorem acceptance_exact (table : ShardTable) (frame : Frame) (now : Time)
    (hpiece : frame.fragmented = true) :
    ((table.process frame now).2.ack.success = true ↔
        ∃ piece, ShardPiece.parse frame.payload = .ok piece ∧
          Welcomes (table.assembly? frame.identity) piece) ∧
      ((table.process frame now).2.ack.success = false →
        table.process frame now = (table, ⟨.reject (ShardPiece.peek frame.payload).1
          (ShardPiece.peek frame.payload).2, none, .keep, none⟩)) ∧
      ((table.process frame now).2.ack.shard, (table.process frame now).2.ack.piece) =
        ShardPiece.peek frame.payload := by
  obtain ⟨hnumbers, hsuccess⟩ := table.ack_process now hpiece
  refine ⟨?_, process_of_rejected, hnumbers⟩
  simpa only [admits_iff_welcomes] using hsuccess

def pieceFrame (payload : Bytes) : Frame :=
  Frame.make ⟨[0xB0, 0, 0, 0, 0, 7], rfl⟩ (Header.make 3 true .monitoring) payload

/-- The first piece has come, and the third one before the second. -/
def gapTable : ShardTable :=
  (((ShardTable.make 20000).process (pieceFrame [1, 0, 1, 0, 0]) 0).1.process
    (pieceFrame [1, 2, 1, 0, 2]) 0).1

/-- The third piece has come once more, now with an end mark. -/
def endedTable : ShardTable :=
  (gapTable.process (pieceFrame [1, 0x82, 1, 0, 2]) 5).1

/-- The shard ends with its third piece, so the fourth one is refused. -/
theorem acceptance_exact_pastEnd :
    let frame := pieceFrame [1, 3, 1, 0, 3]
    frame.fragmented = true ∧
      ((endedTable.process frame 7).2.ack.success = true ↔
        ∃ piece, ShardPiece.parse frame.payload = .ok piece ∧
          Welcomes (endedTable.assembly? frame.identity) piece) ∧
      (endedTable.process frame 7).2.ack.success = false ∧
      endedTable.process frame 7 = (endedTable, ⟨.reject 1 3, none, .keep, none⟩) ∧
      endedTable.active = 1 := by
  obtain ⟨haccepted, hrejected, -⟩ :=
    acceptance_exact endedTable (pieceFrame [1, 3, 1, 0, 3]) 7 rfl
  exact ⟨rfl, haccepted, rfl, hrejected rfl, rfl⟩

/-! ### A piece that comes again -/

/-- The reassembly of a sensor has taken a piece already and is none the better for another copy.
The last field says that its entry stands in front, where inserting puts it. -/
structure HasTaken (table : ShardTable) (identity : Identity) (piece : ShardPiece)
    (assembly : Assembly) : Prop where
  collecting : table.IsCollecting identity piece assembly
  inside : assembly.isPastEnd piece.piece = false
  incomplete : assembly.isComplete = false
  again : ∀ deadline, assembly.accept piece deadline = assembly
  entry : table.assemblies.insert identity assembly = table.assemblies

theorem HasTaken.process_eq {assembly : Assembly}
    (h : table.HasTaken frame.identity piece assembly) (hpiece : frame.fragmented = true)
    (hparse : ShardPiece.parse frame.payload = .ok piece) (now : Time) :
    table.process frame now = (table, ⟨.accept piece.shard piece.piece, none, .keep, none⟩) := by
  have hidle : assembly.advancesOn piece.piece = false := by
    rw [← h.again now]
    exact assembly.advancesOn_accept now
  rw [process_of_isCollecting table now hpiece hparse h.collecting]
  simp [continueShard, h.inside, h.again, h.incomplete, h.entry, hidle, h.collecting.2]

theorem hasTaken_accept {assembly : Assembly}
    (hcollecting : table.IsCollecting identity piece assembly)
    (hend : assembly.isPastEnd piece.piece = false) (deadline : Time)
    (hincomplete : (assembly.accept piece deadline).isComplete = false) :
    HasTaken { table with
        assemblies := table.assemblies.insert identity (assembly.accept piece deadline) }
      identity piece (assembly.accept piece deadline) where
  collecting := ⟨assembly?_insert_self .., by rw [Assembly.accept_shard, hcollecting.2]⟩
  inside := by
    rw [Assembly.isPastEnd_eq_false_iff, Assembly.accept_final]
    intro last hlast
    split_ifs at hlast
    · exact Nat.le_of_eq (Option.some.inj hlast)
    · exact Assembly.isPastEnd_eq_false_iff.mp hend last hlast
  incomplete := hincomplete
  again := assembly.accept_accept deadline
  entry := Keyed.insert_insert ..

theorem hasTaken_opening (hfirst : piece.piece = 0)
    (hincomplete : (table.opening frame piece now).isComplete = false) :
    HasTaken { table with
        assemblies := table.assemblies.insert frame.identity (table.opening frame piece now)
        generation := table.generation + 1 }
      frame.identity piece (table.opening frame piece now) where
  collecting := ⟨assembly?_insert_self .., Assembly.start_shard ..⟩
  inside := by
    rw [Assembly.isPastEnd_eq_false_iff, hfirst]
    exact fun last _ => Nat.zero_le last
  incomplete := hincomplete
  again := by
    intro deadline
    have hpos : piece.piece < (table.opening frame piece now).expected := by
      rw [hfirst]
      exact Assembly.expected_start_pos ..
    have hlast : (table.opening frame piece now).lastPiece = piece.piece :=
      Assembly.start_lastPiece ..
    rw [Assembly.accept_of_lt _ deadline hpos]
    generalize table.opening frame piece now = assembly at hlast
    rw [← hlast]
  entry := Keyed.insert_insert ..

/-- **A piece may come twice.** Unless it has completed its shard, it is answered again as it was
the first time, and nothing else comes of it. -/
theorem redelivery_idempotent (table : ShardTable) (frame : Frame) (now later : Time)
    (hpiece : frame.fragmented = true)
    (hincomplete : (table.process frame now).2.completed = none) :
    (table.process frame now).1.process frame later =
      ((table.process frame now).1, ⟨(table.process frame now).2.ack, none, .keep, none⟩) := by
  have hcases := table.processed frame now
  cases hprocess : table.process frame now with
  | mk after outcome =>
    rw [hprocess] at hcases hincomplete
    cases hcases with
    | whole hwhole => simp [hpiece] at hwhole
    | openedWhole => cases hincomplete
    | completed => cases hincomplete
    | refused _ hrefused => exact (Processed.refused hpiece hrefused).process_eq
    | opened piece _ hparse hopening hopen =>
      exact (hasTaken_opening hopening.1 hopen).process_eq hpiece hparse later
    | joined piece assembly _ hparse hcollecting hend hopen =>
      exact (hasTaken_accept hcollecting hend _ hopen).process_eq hpiece hparse later

/-- The last piece comes early: it is kept and puts the deadline off, but only once. -/
theorem redelivery_idempotent_early :
    let frame := pieceFrame [1, 0x83, 1, 0, 3]
    let after := (gapTable.process frame 5).1
    frame.fragmented = true ∧ (gapTable.process frame 5).2.completed = none ∧
      (gapTable.process frame 5).2.progress = some 20005 ∧ after ≠ gapTable ∧
      after.process frame 9 = (after, ⟨.accept 1 3, none, .keep, none⟩) := by
  have hagain := redelivery_idempotent gapTable (pieceFrame [1, 0x83, 1, 0, 3]) 5 9
    rfl rfl
  exact ⟨rfl, rfl, rfl, by decide +kernel, hagain⟩

end SensorGateway.ShardTable
