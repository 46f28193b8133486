import SensorGateway.Data.Keyed
import SensorGateway.Envelope.Frame
import SensorGateway.Shard.Piece

/-!
# One reassembly

A reassembly collects the pieces of one shard of one sensor. Pieces that arrive in order are
appended at once; a piece that comes too early waits until its predecessors are there. The last
piece is known as soon as a piece with an end mark has been accepted, and the payload is complete
when everything up to it has been appended.
-/

namespace SensorGateway

/-- The clock of the gateway in milliseconds since some fixed moment. -/
abbrev Time := Nat

structure Assembly where
  /-- No two reassemblies of a table have had the same generation. -/
  generation : Nat
  shard : Nat
  /-- The number of the piece to be appended next. -/
  expected : Nat
  /-- The data of all pieces below `expected`. -/
  accumulated : Bytes
  /-- The data of pieces that came too early. -/
  early : Keyed Nat Bytes
  /-- The number of the last piece, once it is known. -/
  final : Option Nat
  /-- The number of the piece accepted last. -/
  lastPiece : Nat
  paramCount : UInt8
  packetType : PacketType
  /-- When the reassembly is given up unless it makes progress. -/
  deadline : Time
deriving DecidableEq

namespace Assembly

def isComplete (assembly : Assembly) : Bool :=
  match assembly.final with
  | some last => last < assembly.expected
  | none => false

/-- Appends early pieces, at most `count`, as long as the expected one is among them. -/
def merge : Nat → Assembly → Assembly
  | 0, assembly => assembly
  | count + 1, assembly =>
    match assembly.early.get? assembly.expected with
    | none => assembly
    | some data =>
      merge count
        { assembly with
          accumulated := assembly.accumulated ++ data
          early := assembly.early.erase assembly.expected
          expected := assembly.expected + 1 }

/-- Appends the expected piece and all early ones that follow it without a gap. -/
def append (assembly : Assembly) (data : Bytes) : Assembly :=
  merge assembly.early.size
    { assembly with
      accumulated := assembly.accumulated ++ data
      expected := assembly.expected + 1 }

def start (generation : Nat) (header : Header) (piece : ShardPiece) (deadline : Time) : Assembly :=
  append
    { generation
      shard := piece.shard
      expected := 0
      accumulated := []
      early := Keyed.empty
      final := if piece.final then some piece.piece else none
      lastPiece := piece.piece
      paramCount := header.paramCount
      packetType := header.packetType
      deadline }
    piece.data

def isPastEnd (assembly : Assembly) (piece : Nat) : Bool :=
  match assembly.final with
  | some last => last < piece
  | none => false

/-- Whether accepting a piece of this number brings the reassembly forward: it is the expected one,
or an early one that is not yet waiting. -/
def advancesOn (assembly : Assembly) (piece : Nat) : Bool :=
  piece == assembly.expected ||
    (assembly.expected < piece && !assembly.early.contains piece)

/-- The reassembly after a piece that does not lie past the end; `deadline` is the one that holds
after progress. -/
def accept (assembly : Assembly) (piece : ShardPiece) (deadline : Time) : Assembly :=
  let number := piece.piece
  let final := if piece.final then some number else assembly.final
  if number < assembly.expected then { assembly with lastPiece := number }
  else if assembly.expected < number then
    { assembly with
      lastPiece := number
      early := assembly.early.insert number piece.data
      final
      deadline := if assembly.early.contains number then assembly.deadline else deadline }
  else { assembly.append piece.data with lastPiece := number, final, deadline }

def toFrame (assembly : Assembly) (identity : Identity) : Frame :=
  Frame.make identity (Header.make assembly.paramCount false assembly.packetType)
    assembly.accumulated

end Assembly

end SensorGateway
