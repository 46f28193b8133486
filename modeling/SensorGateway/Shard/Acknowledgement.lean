import SensorGateway.Envelope.Frame
import SensorGateway.Shard.Piece

/-!
# Acknowledging pieces

Every piece is answered by ten bytes of its own form: the identity of the sensor, a control word and
a checksum. The two high bits of the word tell the sensor to go on or to start its shard again, and
the other bits name the piece that is answered.
-/

namespace SensorGateway

structure ShardAck where
  success : Bool
  shard : Nat
  piece : Nat
deriving DecidableEq

namespace ShardAck

def encodedLength : Nat := 10

def accept (shard piece : Nat) : ShardAck := ⟨true, shard, piece⟩

/-- The answer that asks for the shard again. -/
def reject (shard piece : Nat) : ShardAck := ⟨false, shard, piece⟩

/-- The control word of an answer, without an end mark. -/
def word (ack : ShardAck) : Nat :=
  (if ack.success then 0xC000 else 0) + ShardWord.toNat ⟨ack.shard, ack.piece, false⟩

/-- The answer in a control word; only two set bits are a success. -/
def ofWord (word : Nat) : ShardAck :=
  let parts := ShardWord.ofNat word
  ⟨word / 0x4000 % 4 == 3, parts.shard, parts.piece⟩

def encode (ack : ShardAck) (identity : Identity) : Bytes :=
  withChecksum (identity.bytes ++ Bytes.ofNatBE 2 ack.word)

def decode (raw : Bytes) : Except Failure (Identity × ShardAck) :=
  if raw.length ≠ encodedLength then .error (.frameTooShort raw.length encodedLength)
  else
    let body := raw.take 8
    let received := UInt16.ofNat (Bytes.toNatBE (raw.drop 8))
    let calculated := checksum body
    if received ≠ calculated then .error (.checksumMismatch received calculated)
    else
      match Identity.ofBytes (body.take 6) with
      | .error cause => .error (.invalidIdentity cause)
      | .ok identity => .ok (identity, ofWord (Bytes.toNatBE (body.drop 6)))

end ShardAck

end SensorGateway
