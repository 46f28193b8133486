import Mathlib.Logic.Function.Basic
import SensorGateway.Proofs.Shard.Table

/-!
# Where a payload stops

A table is followed through any calls whatever, and beside it what each sensor has had accepted
since its reassembly was opened. A payload that comes out has one accepted body for each number
below the first number that was not accepted, and an end mark has come with one of these numbers.
Nothing ties the two together: a piece that waits is not dropped when an end mark comes in front of
it, so the payload stops at an end mark exactly when the last of these numbers bears one
(`payload_of_completed`). Pieces that agree on where their shard ends never run past it.
-/

namespace SensorGateway

/-- The payload has one accepted body for each number up to that of a piece with an end mark, and
nothing else. -/
def StopsAtMark (accepted : List ShardPiece) (payload : Bytes) : Prop :=
  ∃ last ∈ accepted, last.final = true ∧ Joins accepted (last.piece + 1) payload

namespace Assembly

/-- What is true of a reassembly and the pieces it has accepted, whatever they are. -/
structure Accounted (assembly : Assembly) (accepted : List ShardPiece) : Prop where
  holds : assembly.Holds accepted
  settled : assembly.Settled
  marked : assembly.Marked accepted

variable {assembly : Assembly} {accepted : List ShardPiece} {piece : ShardPiece}

theorem accounted_start (generation : Nat) (header : Header) (hstart : piece.piece = 0)
    (deadline : Time) : (start generation header piece deadline).Accounted [piece] :=
  ⟨holds_start generation header hstart deadline, settled_start .., marked_start _ _ _ _⟩

theorem Accounted.accept (h : assembly.Accounted accepted) (hshard : piece.shard = assembly.shard)
    (deadline : Time) : (assembly.accept piece deadline).Accounted (accepted ++ [piece]) :=
  ⟨h.holds.accept h.settled hshard deadline, h.settled.accept deadline, h.marked.accept deadline⟩

theorem Accounted.exists_mark (h : assembly.Accounted accepted)
    (hcomplete : assembly.isComplete = true) :
    ∃ last ∈ accepted, last.final = true ∧ last.piece < assembly.expected := by
  obtain ⟨number, hnumber, hlt⟩ := isComplete_eq_true_iff.mp hcomplete
  obtain ⟨last, hmem, hfinal, rfl⟩ := h.marked number hnumber
  exact ⟨last, hmem, hfinal, hlt⟩

end Assembly

namespace ShardTable

/-- What has been accepted from each sensor since its reassembly was opened, after one more frame: a
piece that is answered positively joins the others if its shard is being collected, and is the first
one if not. -/
def record (table : ShardTable) (accepted : Identity → List ShardPiece) (frame : Frame)
    (now : Time) : Identity → List ShardPiece :=
  match ShardPiece.parse frame.payload with
  | .error _ => accepted
  | .ok piece =>
    if frame.fragmented && (table.process frame now).2.ack.success then
      Function.update accepted frame.identity
        (if (table.assembly? frame.identity).any (·.shard == piece.shard) then
          accepted frame.identity ++ [piece]
        else [piece])
    else accepted

/-- The tables that any calls lead to, with what has been accepted from each sensor. -/
inductive Recorded (timeout : Time) : ShardTable → (Identity → List ShardPiece) → Prop where
  | make : Recorded timeout (ShardTable.make timeout) fun _ => []
  | process {table accepted} (h : Recorded timeout table accepted) (frame : Frame) (now : Time) :
      Recorded timeout (table.process frame now).1 (table.record accepted frame now)
  | expire {table accepted} (h : Recorded timeout table accepted) (identity : Identity)
      (generation : Nat) (now : Time) :
      Recorded timeout (table.expire identity generation now).1 accepted
  | drain {table accepted} (h : Recorded timeout table accepted) :
      Recorded timeout table.drain.1 accepted

def Accounted (table : ShardTable) (accepted : Identity → List ShardPiece) : Prop :=
  ∀ identity assembly, table.assembly? identity = some assembly →
    assembly.Accounted (accepted identity)

variable {table : ShardTable} {accepted : Identity → List ShardPiece} {frame : Frame}
  {piece : ShardPiece} {assembly : Assembly} {identity : Identity} {now timeout : Time}

/-! ### What is recorded -/

theorem record_of_ne (hne : identity ≠ frame.identity) :
    table.record accepted frame now identity = accepted identity := by
  rw [record]
  cases ShardPiece.parse frame.payload with
  | error => rfl
  | ok piece =>
    by_cases hack : (frame.fragmented && (table.process frame now).2.ack.success) = true
    · simp only [if_pos hack, Function.update_of_ne hne]
    · simp only [if_neg hack]

theorem record_of_isOpening (hpiece : frame.fragmented = true)
    (hparse : ShardPiece.parse frame.payload = .ok piece)
    (hopening : table.IsOpening frame.identity piece) :
    table.record accepted frame now frame.identity = [piece] := by
  have hack := (table.ack_process now hpiece).2.mpr ⟨piece, hparse, Or.inl hopening⟩
  have hother : (table.assembly? frame.identity).any (·.shard == piece.shard) = false := by
    cases hfound : table.assembly? frame.identity with
    | none => rfl
    | some other => simpa using hopening.2 other hfound
  simp [record, hparse, hpiece, hack, hother]

theorem record_of_isCollecting (hpiece : frame.fragmented = true)
    (hparse : ShardPiece.parse frame.payload = .ok piece)
    (hcollecting : table.IsCollecting frame.identity piece assembly)
    (hend : assembly.isPastEnd piece.piece = false) :
    table.record accepted frame now frame.identity = accepted frame.identity ++ [piece] := by
  have hack := (table.ack_process now hpiece).2.mpr
    ⟨piece, hparse, Or.inr ⟨assembly, hcollecting, hend⟩⟩
  have hsame : (table.assembly? frame.identity).any (·.shard == piece.shard) = true := by
    simp [hcollecting.1, hcollecting.2]
  simp [record, hparse, hpiece, hack, hsame]

theorem record_of_not_admits
    (hrefused : frame.fragmented = true → ∀ piece, ShardPiece.parse frame.payload = .ok piece →
      ¬ table.Admits frame.identity piece) : table.record accepted frame now = accepted := by
  have hunanswered : ¬ (frame.fragmented && (table.process frame now).2.ack.success) = true := by
    rw [Bool.and_eq_true]
    rintro ⟨hpiece, hack⟩
    obtain ⟨piece, hparse, hadmits⟩ := (table.ack_process now hpiece).2.mp hack
    exact hrefused hpiece piece hparse hadmits
  rw [record]
  cases ShardPiece.parse frame.payload with
  | error => rfl
  | ok piece => exact if_neg hunanswered

/-! ### Every table reached is accounted for -/

theorem Accounted.process (h : table.Accounted accepted) (frame : Frame) (now : Time) :
    (table.process frame now).1.Accounted (table.record accepted frame now) := by
  intro identity assembly hfound
  cases origin_of_assembly?_process hfound with
  | elsewhere _ _ hne hbefore =>
    rw [record_of_ne hne]
    exact h identity assembly hbefore
  | kept _ hbefore hrefused =>
    rw [record_of_not_admits hrefused]
    exact h frame.identity assembly hbefore
  | opened piece hpiece hparse hopening =>
    rw [record_of_isOpening hpiece hparse hopening]
    exact Assembly.accounted_start _ _ hopening.1 _
  | joined piece previous hpiece hparse hcollecting hend =>
    rw [record_of_isCollecting hpiece hparse hcollecting hend]
    exact (h _ previous hcollecting.1).accept hcollecting.2.symm _

theorem Accounted.expire (h : table.Accounted accepted) (identity : Identity) (generation : Nat)
    (now : Time) : (table.expire identity generation now).1.Accounted accepted :=
  fun other assembly hfound => h other assembly (of_assembly?_expire hfound)

theorem Recorded.accounted (h : Recorded timeout table accepted) : table.Accounted accepted := by
  induction h with
  | make => exact fun _ _ hfound => nomatch hfound
  | process _ frame now ih => exact ih.process frame now
  | expire _ identity generation now ih => exact ih.expire identity generation now
  | drain => exact fun _ _ hfound => nomatch hfound

theorem Accounted.exists_of_completed (h : table.Accounted accepted)
    (hpiece : frame.fragmented = true) {whole : Frame}
    (hwhole : (table.process frame now).2.completed = some whole) :
    ∃ assembly : Assembly, assembly.Accounted (table.record accepted frame now frame.identity) ∧
      assembly.isComplete = true ∧ whole.payload = assembly.accumulated := by
  cases completion_of_process hpiece hwhole with
  | opened piece hparse hopening hcomplete =>
    rw [record_of_isOpening hpiece hparse hopening]
    exact ⟨_, Assembly.accounted_start _ frame.header hopening.1 _, hcomplete, rfl⟩
  | joined piece previous hparse hcollecting hend hcomplete =>
    rw [record_of_isCollecting hpiece hparse hcollecting hend]
    exact ⟨_, (h _ previous hcollecting.1).accept hcollecting.2.symm _, hcomplete, rfl⟩

/-- **What a payload is made of.** It is joined from the numbers in front of the first one that was
not accepted. It stops at an end mark if the last of these numbers bears one, and only then as far
as the bodies tell. -/
theorem payload_of_completed (h : Recorded timeout table accepted)
    (hpiece : frame.fragmented = true) {whole : Frame}
    (hwhole : (table.process frame now).2.completed = some whole) {received : List ShardPiece}
    (hreceived : table.record accepted frame now frame.identity = received) :
    ∃ shard count, (∀ piece ∈ received, piece.shard = shard) ∧
      Joins received count whole.payload ∧
      (∀ piece ∈ received, piece.piece ≠ count) ∧
      (∃ last ∈ received, last.final = true ∧ last.piece < count) ∧
      ((∃ last ∈ received, last.final = true ∧ last.piece + 1 = count) →
        StopsAtMark received whole.payload) ∧
      ((∀ piece ∈ received, piece.data ≠ [] ∧
          ∀ other ∈ received, piece.piece = other.piece → piece.data = other.data) →
        StopsAtMark received whole.payload →
          ∃ last ∈ received, last.final = true ∧ last.piece + 1 = count) := by
  obtain ⟨assembly, haccounted, hcomplete, hpayload⟩ :=
    h.accounted.exists_of_completed hpiece hwhole
  rw [hreceived] at haccounted
  rw [hpayload]
  refine ⟨assembly.shard, assembly.expected, haccounted.holds.shard_eq, haccounted.holds.joins, ?_,
    haccounted.exists_mark hcomplete, ?_, ?_⟩
  · exact fun piece hmem => haccounted.holds.piece_ne_expected haccounted.settled hmem
  · rintro ⟨last, hmem, hfinal, hlast⟩
    exact ⟨last, hmem, hfinal, hlast ▸ haccounted.holds.joins⟩
  · rintro hdata ⟨last, hmem, hfinal, hjoins⟩
    refine ⟨last, hmem, hfinal, hjoins.count_unique haccounted.holds.joins ?_ ?_⟩
    · exact fun piece hmem => (hdata piece hmem).2
    · exact fun piece hmem => (hdata piece hmem).1

def overtakingFrame (payload : Bytes) : Frame :=
  Frame.make ⟨[0x23, 0x8A, 0x08, 0x26, 0x23, 0x19], rfl⟩ (Header.make 3 true .monitoring) payload

/-- The first piece has come, and the third one before the second. -/
def overtakenTable : ShardTable :=
  (((ShardTable.make 20000).process (overtakingFrame [1, 0, 1, 0, 0]) 0).1.process
    (overtakingFrame [1, 2, 1, 0, 2]) 0).1

def overtakenAccepted : Identity → List ShardPiece :=
  let first := overtakingFrame [1, 0, 1, 0, 0]
  ((ShardTable.make 20000).process first 0).1.record
    ((ShardTable.make 20000).record (fun _ => []) first 0) (overtakingFrame [1, 2, 1, 0, 2]) 0

theorem recorded_overtaken : Recorded 20000 overtakenTable overtakenAccepted :=
  (Recorded.make.process _ 0).process _ 0

/-- The second piece bears the end mark, and the body of the third one comes out all the same. -/
theorem payload_of_completed_overtaken :
    let received : List ShardPiece := [⟨1, 0, false, [0]⟩, ⟨1, 2, false, [2]⟩, ⟨1, 1, true, [1]⟩]
    ∃ shard count, (∀ piece ∈ received, piece.shard = shard) ∧
      Joins received count [0, 1, 2] ∧
      (∀ piece ∈ received, piece.piece ≠ count) ∧
      (∃ last ∈ received, last.final = true ∧ last.piece < count) ∧
      ((∃ last ∈ received, last.final = true ∧ last.piece + 1 = count) →
        StopsAtMark received [0, 1, 2]) ∧
      ((∀ piece ∈ received, piece.data ≠ [] ∧
          ∀ other ∈ received, piece.piece = other.piece → piece.data = other.data) →
        StopsAtMark received [0, 1, 2] →
          ∃ last ∈ received, last.final = true ∧ last.piece + 1 = count) := by
  have hwhole : (overtakenTable.process (overtakingFrame [1, 0x81, 1, 0, 1]) 0).2.completed =
      some (Frame.make ⟨[0x23, 0x8A, 0x08, 0x26, 0x23, 0x19], rfl⟩
        (Header.make 3 false .monitoring) [0, 1, 2]) := rfl
  exact payload_of_completed recorded_overtaken rfl hwhole rfl

/-- A piece that waits when the end mark comes in front of it is part of the payload. -/
theorem exists_not_stopsAtMark :
    ∃ (table : ShardTable) (accepted : Identity → List ShardPiece) (frame whole : Frame),
      Recorded 20000 table accepted ∧ frame.fragmented = true ∧
      (table.process frame 0).2.completed = some whole ∧
      ¬ StopsAtMark (table.record accepted frame 0 frame.identity) whole.payload := by
  refine ⟨overtakenTable, overtakenAccepted, overtakingFrame [1, 0x81, 1, 0, 1],
    Frame.make ⟨[0x23, 0x8A, 0x08, 0x26, 0x23, 0x19], rfl⟩ (Header.make 3 false .monitoring)
      [0, 1, 2], recorded_overtaken, rfl, rfl, ?_⟩
  have hreceived : overtakenTable.record overtakenAccepted (overtakingFrame [1, 0x81, 1, 0, 1]) 0
      (overtakingFrame [1, 0x81, 1, 0, 1]).identity =
        [⟨1, 0, false, [0]⟩, ⟨1, 2, false, [2]⟩, ⟨1, 1, true, [1]⟩] := rfl
  rw [hreceived]
  rintro ⟨last, hmem, hfinal, bodies, hlength, hflatten, hbodies⟩
  -- the only end mark is that of the second piece, so there are two bodies of one byte each
  have hlast : last = ⟨1, 1, true, [1]⟩ := by
    simp only [List.mem_cons, List.not_mem_nil, or_false] at hmem
    rcases hmem with rfl | rfl | rfl
    · cases hfinal
    · cases hfinal
    · rfl
  have hbody : ∀ body ∈ bodies, body.length = 1 := by
    intro body hmem
    obtain ⟨number, hnumber⟩ := List.mem_iff_getElem?.mp hmem
    obtain ⟨piece, hpiece, _, rfl⟩ := hbodies number body hnumber
    simp only [List.mem_cons, List.not_mem_nil, or_false] at hpiece
    rcases hpiece with rfl | rfl | rfl <;> rfl
  have hcount : bodies.flatten.length = bodies.length := by
    rw [List.length_flatten, List.map_congr_left hbody, List.map_const', List.sum_replicate_nat]
    simp
  rw [hlength, hflatten, hlast] at hcount
  cases hcount

/-- If no accepted piece lies past an end mark that has come, the payload stops at one. -/
theorem stopsAtMark_of_forall_le (h : Recorded timeout table accepted)
    (hpiece : frame.fragmented = true) {whole : Frame}
    (hwhole : (table.process frame now).2.completed = some whole) {received : List ShardPiece}
    (hreceived : table.record accepted frame now frame.identity = received)
    (hagree : ∀ last ∈ received, last.final = true → ∀ piece ∈ received,
      piece.piece ≤ last.piece) : StopsAtMark received whole.payload := by
  obtain ⟨assembly, haccounted, hcomplete, hpayload⟩ :=
    h.accounted.exists_of_completed hpiece hwhole
  rw [hreceived] at haccounted
  obtain ⟨last, hmem, hfinal, hlt⟩ := haccounted.exists_mark hcomplete
  -- every number in front of the expected one was accepted, so none is past the marked one
  have hlast : last.piece + 1 = assembly.expected := by
    obtain ⟨piece, hpieceMem, hnumber⟩ :
        ∃ piece ∈ received, piece.piece = assembly.expected - 1 :=
      haccounted.holds.exists_of_lt (by omega)
    have hle := hagree last hmem hfinal piece hpieceMem
    omega
  rw [hpayload]
  exact ⟨last, hmem, hfinal, hlast ▸ haccounted.holds.joins⟩

end ShardTable

end SensorGateway
