import SensorGateway.Gateway.Station
import SensorGateway.Proofs.Envelope
import SensorGateway.Proofs.Shard.LifeCycle

/-!
# Who is answered, and with what

An answer has a fixed length and is read back whatever its numbers, which are reduced to the bits
they travel in. Every piece is answered once, under the numbers at the front of its payload, even if
these bytes are no piece; the answer is positive if the table accepts the piece. A whole frame is
not answered as long as the engine runs. After the engine has been shut down it is, as if it were a
piece (`submit_answers`, `not_forall_whole_unanswered`).
-/

namespace SensorGateway

namespace ShardAck

theorem word_lt (ack : ShardAck) : ack.word < 65536 := by
  unfold word ShardWord.toNat
  cases ack.success <;> simp <;> omega

theorem ofWord_word (ack : ShardAck) :
    ofWord ack.word = ⟨ack.success, ack.shard % 64, ack.piece % 128⟩ := by
  obtain ⟨success, shard, piece⟩ := ack
  unfold ofWord word ShardWord.ofNat ShardWord.toNat
  cases success
  · rw [mk.injEq, beq_eq_false_iff_ne]
    simp
    omega
  · rw [mk.injEq, beq_iff_eq]
    simp
    omega

variable (ack : ShardAck) (identity : Identity)

theorem length_body_encode : (identity.bytes ++ Bytes.ofNatBE 2 ack.word).length = 8 := by
  rw [List.length_append, identity.length_bytes, Bytes.length_ofNatBE]

theorem length_encode : (ack.encode identity).length = 10 := by
  unfold encode
  rw [length_withChecksum, length_body_encode]

theorem decode_encode :
    decode (ack.encode identity) =
      .ok (identity, ⟨ack.success, ack.shard % 64, ack.piece % 128⟩) := by
  have hlength := length_encode ack identity
  have hbody : (ack.encode identity).take 8 = identity.bytes ++ Bytes.ofNatBE 2 ack.word := by
    have htake := Frame.take_withChecksum (identity.bytes ++ Bytes.ofNatBE 2 ack.word)
    rwa [← encode, hlength] at htake
  have hchecksum : UInt16.ofNat (Bytes.toNatBE ((ack.encode identity).drop 8)) =
      checksum (identity.bytes ++ Bytes.ofNatBE 2 ack.word) := by
    have hdrop :=
      Frame.ofNat_toNatBE_drop_withChecksum (identity.bytes ++ Bytes.ofNatBE 2 ack.word)
    rwa [← encode, hlength] at hdrop
  have hword : Bytes.toNatBE (Bytes.ofNatBE 2 ack.word) = ack.word := by
    rw [Bytes.toNatBE_ofNatBE]
    exact Nat.mod_eq_of_lt (word_lt ack)
  have hidentity : Identity.ofBytes identity.bytes = .ok identity :=
    Identity.ofBytes_eq_ok_iff.mpr rfl
  unfold decode encodedLength
  rw [if_neg (not_not.mpr hlength)]
  simp only [hbody, hchecksum, ne_eq, not_true_eq_false, if_false,
    List.take_left' identity.length_bytes, List.drop_left' identity.length_bytes, hidentity, hword,
    ofWord_word]

end ShardAck

theorem ShardPiece.peek_lt (payload : Bytes) :
    (peek payload).1 < 64 ∧ (peek payload).2 < 128 := by
  unfold peek
  split
  · exact ⟨ShardWord.shard_ofNat_lt _, ShardWord.piece_ofNat_lt _⟩
  · decide

namespace Engine

variable (engine : Engine) (frame : Frame) (now : Time)

/-- The engine is running, and the frame holds a piece that its table accepts. -/
def Accepts : Prop :=
  engine.isShutDown = false ∧
    ∃ piece, ShardPiece.parse frame.payload = .ok piece ∧ engine.table.Admits frame.identity piece

variable {engine frame} in
theorem exists_ack_submit (hanswered : frame.fragmented = true ∨ engine.isShutDown = true) :
    ∃ ack, (engine.submit frame now).2.ack = some ack ∧
      (ack.shard, ack.piece) = ShardPiece.peek frame.payload ∧
      (ack.success = true ↔ engine.Accepts frame) := by
  unfold Accepts
  cases hclosed : engine.isShutDown with
  | true =>
    refine ⟨.reject (ShardPiece.peek frame.payload).1 (ShardPiece.peek frame.payload).2, ?_, rfl,
      ?_⟩
    · rw [submit, if_pos hclosed]
    · simp [ShardAck.reject]
  | false =>
    have hpiece : frame.fragmented = true := by simpa [hclosed] using hanswered
    obtain ⟨hnumbers, hsuccess⟩ := engine.table.ack_process now hpiece
    refine ⟨(engine.table.process frame now).2.ack, ?_, hnumbers, ?_⟩
    · simp [submit, hclosed, hpiece]
    · rw [hsuccess]
      simp

variable {engine frame} in
theorem ack_submit_of_whole (hwhole : frame.fragmented = false)
    (hrunning : engine.isShutDown = false) : (engine.submit frame now).2.ack = none := by
  simp [submit, hrunning, hwhole]

end Engine

/-- Ten bytes on their way to whoever has sent a frame, which tell it under the numbers at the front
of its payload whether a piece has been accepted. -/
structure Sent.Answers (sent : Sent) (frame : Frame) (accepted : Prop) : Prop where
  target_eq : sent.target = frame.identity
  length_eq : sent.bytes.length = 10
  exists_decode : ∃ ack, ShardAck.decode sent.bytes = .ok (frame.identity, ack) ∧
    (ack.shard, ack.piece) = ShardPiece.peek frame.payload ∧ (ack.success = true ↔ accepted)

theorem Sent.answers_encode {ack : ShardAck} {frame : Frame} {accepted : Prop} (moment : Time)
    (hnumbers : (ack.shard, ack.piece) = ShardPiece.peek frame.payload)
    (hsuccess : ack.success = true ↔ accepted) :
    Sent.Answers ⟨moment, frame.identity, ack.encode frame.identity⟩ frame accepted := by
  obtain ⟨hshard, hpiece⟩ := ShardPiece.peek_lt frame.payload
  rw [← hnumbers] at hshard hpiece
  constructor
  case target_eq => rfl
  case length_eq => exact ShardAck.length_encode ack frame.identity
  case exists_decode =>
    refine ⟨ack, ?_, hnumbers, hsuccess⟩
    rw [ShardAck.decode_encode, Nat.mod_eq_of_lt hshard, Nat.mod_eq_of_lt hpiece]

namespace Station

variable (station : Station) (engine : Engine) (frame : Frame)

/-- **Who is answered.** A submitted frame is answered once if it is a piece or the engine has been
shut down, and not at all if it is a whole frame and the engine is running. -/
theorem submit_answers (hopen : station.line.isOpen = true) :
    (frame.fragmented = true ∨ engine.isShutDown = true →
      ∃ sent, (station.submit engine frame).1.line.delivered = station.line.delivered ++ [sent] ∧
        sent.Answers frame (engine.Accepts frame)) ∧
      (frame.fragmented = false ∧ engine.isShutDown = false →
        (station.submit engine frame).1.line.delivered = station.line.delivered) := by
  constructor
  · intro hanswered
    obtain ⟨ack, hack, hnumbers, hsuccess⟩ :=
      Engine.exists_ack_submit station.clock.now hanswered
    refine ⟨_, ?_, Sent.answers_encode station.clock.now hnumbers hsuccess⟩
    simp [submit, hack, send, sendAt, Channel.send, hopen]
  · rintro ⟨hwhole, hrunning⟩
    simp [submit, Engine.ack_submit_of_whole station.clock.now hwhole hrunning]

/-- The control word says that this is the second piece of shard seven; the length is missing. -/
def truncatedPiece : Frame :=
  Frame.make EngineRun.lonePiece.identity (Header.make 1 true .alarm) [7, 1, 1]

theorem submit_answers_truncatedPiece :
    (empty "").line.isOpen = true ∧ truncatedPiece.fragmented = true ∧
      ∃ sent, ((empty "").submit (EngineRun.submit (.start 20) EngineRun.lonePiece 0).engine
          truncatedPiece).1.line.delivered = [] ++ [sent] ∧
        sent.Answers truncatedPiece
          ((EngineRun.submit (.start 20) EngineRun.lonePiece 0).engine.Accepts truncatedPiece) :=
  ⟨rfl, rfl, (submit_answers (empty "") _ truncatedPiece rfl).1 (Or.inl rfl)⟩

def wholeFrame : Frame :=
  Frame.make EngineRun.lonePiece.identity (Header.make 1 false .alarm) [1]

/-- After the engine has been shut down, a whole frame is answered like a piece. -/
theorem not_forall_whole_unanswered :
    ¬ ∀ (run : EngineRun) (station : Station) (frame : Frame), EngineRun.Reachable 20000 run →
      station.line.isOpen = true → frame.fragmented = false →
        (station.submit run.engine frame).1.line.delivered = station.line.delivered := by
  intro hunanswered
  have hreachable : EngineRun.Reachable 20000 (EngineRun.start 20000).shutdown :=
    .step .start .shutdown
  have hnone := hunanswered _ (empty "") wholeFrame hreachable rfl rfl
  have hanswer : ((empty "").submit (EngineRun.start 20000).shutdown.engine
      wholeFrame).1.line.delivered =
        [⟨0, wholeFrame.identity, (ShardAck.reject 0 0).encode wholeFrame.identity⟩] := rfl
  rw [hanswer] at hnone
  cases hnone

end Station

end SensorGateway
