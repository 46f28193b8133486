import SensorGateway.Bytes.Chunks
import SensorGateway.Failure

/-!
# Pieces of a shard

A payload that is too long for one frame travels as a shard: up to 128 consecutive pieces, each in
a frame of its own. A piece begins with a control word, high byte first, that holds the number of
the shard in six bits, an end mark, and the number of the piece in seven bits; a length, low byte
first, and the data follow. The two high bits of the word are left to acknowledgements.
-/

namespace SensorGateway

structure ShardWord where
  shard : Nat
  piece : Nat
  final : Bool
deriving DecidableEq

namespace ShardWord

def ofNat (word : Nat) : ShardWord :=
  ⟨word / 256 % 64, word % 128, word / 128 % 2 == 1⟩

/-- The control word of these parts, numbers reduced to their bits and the two high bits clear. -/
def toNat (word : ShardWord) : Nat :=
  word.shard % 64 * 256 + (if word.final then 128 else 0) + word.piece % 128

end ShardWord

structure ShardPiece where
  shard : Nat
  piece : Nat
  final : Bool
  data : Bytes
deriving DecidableEq

namespace ShardPiece

def maximumPieces : Nat := 128

def maximumLength : Nat := 0xFFFF

/-- The piece with these parts, numbers reduced to their bits. -/
def make (shard piece : Nat) (final : Bool) (data : Bytes) : ShardPiece :=
  ⟨shard % 64, piece % 128, final, data⟩

def isStart (piece : ShardPiece) : Bool :=
  piece.piece == 0

/-- The numbers at the front of a payload that may be no piece at all; zeros if it is too short to
have any. -/
def peek (payload : Bytes) : Nat × Nat :=
  match payload with
  | high :: low :: _ =>
    let word := ShardWord.ofNat (Bytes.toNatBE [high, low])
    (word.shard, word.piece)
  | _ => (0, 0)

/-- The piece at the front of a payload; what follows it is ignored. -/
def parse (payload : Bytes) : Except PieceError ShardPiece :=
  if payload.length < 4 then .error (.shortHeader payload.length)
  else
    let word := ShardWord.ofNat (Bytes.toNatBE (payload.take 2))
    let length := Bytes.toNatLE ((payload.drop 2).take 2)
    let rest := payload.drop 4
    if rest.length < length then .error (.shortData length rest.length)
    else .ok ⟨word.shard, word.piece, word.final, rest.take length⟩

def encode (piece : ShardPiece) : Except Failure Bytes :=
  if maximumLength < piece.data.length then .error (.pieceTooLong piece.data.length)
  else
    let word := ShardWord.toNat ⟨piece.shard, piece.piece, piece.final⟩
    .ok (Bytes.ofNatBE 2 word ++ Bytes.ofNatLE 2 piece.data.length ++ piece.data)

/-- The pieces that carry these runs of data, the first one having the given number. -/
def numbered (shard : Nat) : Nat → List Bytes → List ShardPiece
  | _, [] => []
  | piece, [data] => [make shard piece true data]
  | piece, data :: rest => make shard piece false data :: numbered shard (piece + 1) rest

def split (shard : Nat) (payload : Bytes) (maximum : Nat) : Except Failure (List ShardPiece) :=
  let runs := if payload.isEmpty then [[]] else Bytes.chunks maximum payload
  if maximumPieces < runs.length then .error (.tooManyPieces runs.length)
  else .ok (numbered shard 0 runs)

end ShardPiece

end SensorGateway
