import Mathlib.Logic.Function.Basic
import SensorGateway.Proofs.Shard.Generations

/-!
# Reassemblies as they are seen from outside

Whoever sees the frames and the answers to them can tell which shard each reassembly collects, when
it last made progress and which of its pieces was answered positively last. `observe` keeps this
record, by generation, and never looks at a deadline. The table agrees with it: the deadline of a
reassembly is its last progress plus the timeout (`Observed.process`).
-/

namespace SensorGateway

/-! ### Progress -/

namespace Assembly

/-- A piece of this number has been accepted before: it has been appended, or it waits for the ones
before it. -/
def Has (assembly : Assembly) (number : Nat) : Prop :=
  number < assembly.expected ∨
    assembly.expected < number ∧ assembly.early.contains number = true

variable (assembly : Assembly)

theorem advancesOn_eq_false_iff (number : Nat) :
    assembly.advancesOn number = false ↔ assembly.Has number := by
  unfold advancesOn Has
  rcases Nat.lt_trichotomy number assembly.expected with hlt | heq | hgt
  · simp [hlt, Nat.ne_of_lt hlt, Nat.lt_asymm hlt]
  · simp [heq]
  · simp [hgt, Nat.ne_of_gt hgt, Nat.lt_asymm hgt]

theorem accept_deadline (piece : ShardPiece) (deadline : Time) :
    (assembly.accept piece deadline).deadline =
      if assembly.advancesOn piece.piece then deadline else assembly.deadline := by
  unfold accept advancesOn
  rcases Nat.lt_trichotomy piece.piece assembly.expected with hlt | heq | hgt
  · simp [hlt, Nat.ne_of_lt hlt, Nat.lt_asymm hlt]
  · simp [heq]
  · cases hwaiting : assembly.early.contains piece.piece <;>
      simp [hgt, Nat.ne_of_gt hgt, Nat.lt_asymm hgt, hwaiting]

theorem start_deadline (generation : Nat) (header : Header) (piece : ShardPiece)
    (deadline : Time) : (start generation header piece deadline).deadline = deadline := by
  unfold start
  rw [append_deadline]

end Assembly

/-! ### The record -/

/-- A reassembly as it is seen from outside. -/
structure Episode where
  identity : Identity
  shard : Nat
  /-- When it was opened or last brought forward. -/
  progressed : Time
  /-- The number of the piece that was answered positively last. -/
  answered : Nat
deriving Inhabited

/-- What is remembered of a reassembly agrees with what has been seen of it. -/
structure Episode.Describes (episode : Episode) (timeout : Time) (identity : Identity)
    (assembly : Assembly) : Prop where
  identity_eq : identity = episode.identity
  shard_eq : assembly.shard = episode.shard
  deadline_eq : assembly.deadline = episode.progressed + timeout
  lastPiece_eq : assembly.lastPiece = episode.answered

namespace ShardTable

/-- A piece that is answered positively belongs to the reassembly of its shard, or else it opens
one. It is progress if it opens the reassembly, is appended to it, or has come too early and for the
first time. -/
def observe (table : ShardTable) (episodes : Nat → Episode) (frame : Frame) (now : Time) :
    Nat → Episode :=
  let ack := (table.process frame now).2.ack
  if frame.fragmented && ack.success then
    match (table.assembly? frame.identity).filter fun assembly => assembly.shard == ack.shard with
    | some assembly =>
      let episode := episodes assembly.generation
      Function.update episodes assembly.generation
        { episode with
          progressed := if assembly.advancesOn ack.piece then now else episode.progressed
          answered := ack.piece }
    | none =>
      Function.update episodes (table.generation + 1) ⟨frame.identity, ack.shard, now, ack.piece⟩
  else episodes

/-- The record describes every reassembly of the table. -/
def Observed (table : ShardTable) (episodes : Nat → Episode) : Prop :=
  ∀ identity assembly, table.assembly? identity = some assembly →
    (episodes assembly.generation).Describes table.timeout identity assembly

variable {table : ShardTable} {episodes : Nat → Episode} {frame : Frame} {now : Time}
  {piece : ShardPiece} {assembly : Assembly}

theorem observe_of_not_admits
    (hrefused : frame.fragmented = true → ∀ piece, ShardPiece.parse frame.payload = .ok piece →
      ¬ table.Admits frame.identity piece) : table.observe episodes frame now = episodes := by
  unfold observe
  apply if_neg
  intro hanswered
  rw [Bool.and_eq_true] at hanswered
  obtain ⟨hpiece, hsuccess⟩ := hanswered
  obtain ⟨piece, hparse, hadmits⟩ := (table.ack_process now hpiece).2.mp hsuccess
  exact hrefused hpiece piece hparse hadmits

theorem ack_process_of_admits (hpiece : frame.fragmented = true)
    (hparse : ShardPiece.parse frame.payload = .ok piece)
    (hadmits : table.Admits frame.identity piece) :
    (table.process frame now).2.ack = .accept piece.shard piece.piece := by
  obtain ⟨hnumbers, hsuccess⟩ := table.ack_process now hpiece
  rw [ShardPiece.peek_of_parse hparse, Prod.mk.injEq] at hnumbers
  have haccepted := hsuccess.mpr ⟨piece, hparse, hadmits⟩
  calc (table.process frame now).2.ack
      = ⟨(table.process frame now).2.ack.success, (table.process frame now).2.ack.shard,
          (table.process frame now).2.ack.piece⟩ := rfl
    _ = .accept piece.shard piece.piece := by
        rw [haccepted, hnumbers.1, hnumbers.2]
        rfl

theorem observe_of_isOpening (hpiece : frame.fragmented = true)
    (hparse : ShardPiece.parse frame.payload = .ok piece)
    (hopening : table.IsOpening frame.identity piece) :
    table.observe episodes frame now =
      Function.update episodes (table.generation + 1)
        ⟨frame.identity, piece.shard, now, piece.piece⟩ := by
  have hjoin := filter_assembly?_eq_none table hopening.2
  unfold observe
  rw [ack_process_of_admits hpiece hparse (Or.inl hopening)]
  simp [hpiece, ShardAck.accept, hjoin]

theorem observe_of_isCollecting (hpiece : frame.fragmented = true)
    (hparse : ShardPiece.parse frame.payload = .ok piece)
    (hcollecting : table.IsCollecting frame.identity piece assembly)
    (hend : assembly.isPastEnd piece.piece = false) :
    table.observe episodes frame now =
      Function.update episodes assembly.generation
        { episodes assembly.generation with
          progressed :=
            if assembly.advancesOn piece.piece then now
            else (episodes assembly.generation).progressed
          answered := piece.piece } := by
  have hjoin := hcollecting.filter_eq
  unfold observe
  rw [ack_process_of_admits hpiece hparse (Or.inr ⟨assembly, hcollecting, hend⟩)]
  simp only [hpiece, ShardAck.accept, Bool.and_self, if_true, hjoin]
  rfl

/-- A frame concerns the reassembly of its own sensor, or the one that it opens. -/
theorem observe_apply_of_ne {generation : Nat}
    (hother : ∀ assembly, table.assembly? frame.identity = some assembly →
      generation ≠ assembly.generation)
    (hold : generation ≠ table.generation + 1) :
    table.observe episodes frame now generation = episodes generation := by
  unfold observe
  dsimp only
  split_ifs
  · cases hjoin : (table.assembly? frame.identity).filter fun assembly =>
        assembly.shard == (table.process frame now).2.ack.shard with
    | some assembly =>
      obtain ⟨hfound, _⟩ := Option.filter_eq_some_iff.mp hjoin
      exact Function.update_of_ne (hother assembly hfound) _ _
    | none => exact Function.update_of_ne hold _ _
  · rfl

/-- What has been accepted before is no progress. -/
theorem progressed_observe_of_has (hparse : ShardPiece.parse frame.payload = .ok piece)
    (hcollecting : table.IsCollecting frame.identity piece assembly)
    (hhas : assembly.Has piece.piece) (generation : Nat) :
    (table.observe episodes frame now generation).progressed =
      (episodes generation).progressed := by
  by_cases hadmitted : frame.fragmented = true ∧ assembly.isPastEnd piece.piece = false
  · rw [observe_of_isCollecting hadmitted.1 hparse hcollecting hadmitted.2]
    by_cases hsame : generation = assembly.generation
    · rw [hsame, Function.update_self, (assembly.advancesOn_eq_false_iff _).mpr hhas]
      rfl
    · rw [Function.update_of_ne hsame]
  · rw [observe_of_not_admits]
    intro hpiece other hother hadmits
    obtain rfl : piece = other := Except.ok.inj (hparse.symm.trans hother)
    rcases hadmits with hopening | ⟨another, hanother, hopen⟩
    · exact hopening.2 assembly hcollecting.1 hcollecting.2
    · obtain rfl := Option.some.inj (hcollecting.1.symm.trans hanother.1)
      exact hadmitted ⟨hpiece, hopen⟩

/-! ### The table agrees with the record -/

theorem Ordered.ne_of_assembly? (h : table.Ordered) {identity : Identity}
    (hfound : table.assembly? identity = some assembly) :
    assembly.generation ≠ table.generation + 1 := by
  have hle := h.le _ (mem_generations_of_assembly? hfound)
  omega

theorem describes_opening (table : ShardTable) (frame : Frame) (piece : ShardPiece) (now : Time) :
    (⟨frame.identity, piece.shard, now, piece.piece⟩ : Episode).Describes table.timeout
      frame.identity (table.opening frame piece now) := by
  unfold opening
  constructor
  case identity_eq => rfl
  case shard_eq => exact Assembly.start_shard ..
  case deadline_eq => exact Assembly.start_deadline ..
  case lastPiece_eq => exact Assembly.start_lastPiece ..

theorem describes_accept {episode : Episode} {timeout : Time} {identity : Identity}
    (h : episode.Describes timeout identity assembly) (piece : ShardPiece) (now : Time) :
    Episode.Describes
      { episode with
        progressed := if assembly.advancesOn piece.piece then now else episode.progressed
        answered := piece.piece }
      timeout identity (assembly.accept piece (now + timeout)) := by
  constructor
  case identity_eq => exact h.identity_eq
  case shard_eq => exact (Assembly.accept_shard ..).trans h.shard_eq
  case deadline_eq =>
    rw [Assembly.accept_deadline]
    split_ifs
    · rfl
    · exact h.deadline_eq
  case lastPiece_eq => exact Assembly.accept_lastPiece ..

theorem Observed.erase (h : table.Observed episodes) (identity : Identity) :
    Observed { table with assemblies := table.assemblies.erase identity } episodes := by
  intro other assembly hfound
  exact h other assembly (of_assembly?_erase hfound).2

theorem Observed.process (h : table.Observed episodes) (hordered : table.Ordered)
    (frame : Frame) (now : Time) :
    (table.process frame now).1.Observed (table.observe episodes frame now) := by
  intro identity assembly hfound
  rw [timeout_process]
  cases origin_of_assembly?_process hfound with
  | elsewhere _ _ hne hbefore =>
    have hkept : table.observe episodes frame now assembly.generation =
        episodes assembly.generation := by
      apply observe_apply_of_ne
      · intro another hanother hsame
        exact hne (hordered.assembly_unique hbefore hanother hsame).1
      · exact hordered.ne_of_assembly? hbefore
    rw [hkept]
    exact h identity assembly hbefore
  | kept _ hbefore hrefused =>
    rw [observe_of_not_admits hrefused]
    exact h frame.identity assembly hbefore
  | opened piece hpiece hparse hopening =>
    rw [observe_of_isOpening hpiece hparse hopening, generation_opening, Function.update_self]
    exact describes_opening table frame piece now
  | joined piece previous hpiece hparse hcollecting hend =>
    rw [observe_of_isCollecting hpiece hparse hcollecting hend, Assembly.accept_generation,
      Function.update_self]
    exact describes_accept (h frame.identity previous hcollecting.1) piece now

end ShardTable

end SensorGateway
