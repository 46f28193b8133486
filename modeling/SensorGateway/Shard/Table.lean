import SensorGateway.Shard.Acknowledgement
import SensorGateway.Shard.Assembly

/-!
# The reassembly table

The table holds at most one reassembly for each sensor. It is a plain value: the caller tells the
time and runs the timers, and every step says what to do with the sensor's timer. A reassembly is
opened by the first piece of a shard, and the first piece of another shard replaces it; it leaves
the table when it is complete, when it has made no progress for the timeout, or when the table is
drained.
-/

namespace SensorGateway

inductive TimerAction where
  /-- Start a timer for a generation in place of any other. -/
  | start (generation : Nat) (deadline : Time)
  | cancel
  | keep
deriving DecidableEq

structure PieceOutcome where
  ack : ShardAck
  completed : Option Frame
  timer : TimerAction
  /-- The deadline that was set, if the frame opened a reassembly or brought one forward. -/
  progress : Option Time
deriving DecidableEq

inductive Expiry where
  /-- The reassembly has been given up, and the sensor is to be told. -/
  | evicted (ack : ShardAck)
  /-- The reassembly has made progress and has a later deadline. -/
  | pending (deadline : Time)
  /-- The reassembly that the timer was for is no longer there. -/
  | gone
deriving DecidableEq

structure ShardTable where
  assemblies : Keyed Identity Assembly
  timeout : Time
  /-- The generation given out last. It stands for a counter of sixty-four bits, and is exact as
  long as fewer than `2 ^ 64` reassemblies have been opened. -/
  generation : Nat
deriving DecidableEq

namespace ShardTable

def make (timeout : Time) : ShardTable :=
  ⟨Keyed.empty, timeout, 0⟩

def assembly? (table : ShardTable) (identity : Identity) : Option Assembly :=
  table.assemblies.get? identity

def active (table : ShardTable) : Nat :=
  table.assemblies.size

def isActive (table : ShardTable) (identity : Identity) : Bool :=
  table.assemblies.contains identity

/-- The outcome of a frame that is refused: nothing but a negative answer. -/
def refusal (shard piece : Nat) : PieceOutcome :=
  ⟨.reject shard piece, none, .keep, none⟩

def openShard (table : ShardTable) (frame : Frame) (piece : ShardPiece) (now : Time) :
    ShardTable × PieceOutcome :=
  let generation := table.generation + 1
  let deadline := now + table.timeout
  let assembly := Assembly.start generation frame.header piece deadline
  let ack := ShardAck.accept piece.shard piece.piece
  if assembly.isComplete then
    ({ table with assemblies := table.assemblies.erase frame.identity, generation },
      ⟨ack, some (assembly.toFrame frame.identity), .cancel, some deadline⟩)
  else
    ({ table with assemblies := table.assemblies.insert frame.identity assembly, generation },
      ⟨ack, none, .start generation deadline, some deadline⟩)

def continueShard (table : ShardTable) (identity : Identity) (assembly : Assembly)
    (piece : ShardPiece) (now : Time) : ShardTable × PieceOutcome :=
  if assembly.isPastEnd piece.piece then (table, refusal assembly.shard piece.piece)
  else
    let deadline := now + table.timeout
    let progress := if assembly.advancesOn piece.piece then some deadline else none
    let next := assembly.accept piece deadline
    let ack := ShardAck.accept assembly.shard piece.piece
    if next.isComplete then
      ({ table with assemblies := table.assemblies.erase identity },
        ⟨ack, some (next.toFrame identity), .cancel, progress⟩)
    else
      ({ table with assemblies := table.assemblies.insert identity next },
        ⟨ack, none, .keep, progress⟩)

/-- Processes a frame. A frame that is no piece is whole already; a piece joins the reassembly of
its shard or, being the first one, opens it. -/
def process (table : ShardTable) (frame : Frame) (now : Time) : ShardTable × PieceOutcome :=
  if !frame.fragmented then (table, ⟨.accept 0 0, some frame, .keep, none⟩)
  else
    match ShardPiece.parse frame.payload with
    | .error _ =>
      let (shard, piece) := ShardPiece.peek frame.payload
      (table, refusal shard piece)
    | .ok piece =>
      let join :=
        (table.assembly? frame.identity).filter fun assembly => assembly.shard == piece.shard
      match join with
      | some assembly => table.continueShard frame.identity assembly piece now
      | none =>
        if piece.isStart then table.openShard frame piece now
        else (table, refusal piece.shard piece.piece)

def expire (table : ShardTable) (identity : Identity) (generation : Nat) (now : Time) :
    ShardTable × Expiry :=
  match table.assembly? identity with
  | none => (table, .gone)
  | some assembly =>
    if assembly.generation ≠ generation then (table, .gone)
    else if now < assembly.deadline then (table, .pending assembly.deadline)
    else
      ({ table with assemblies := table.assemblies.erase identity },
        .evicted (.reject assembly.shard assembly.lastPiece))

/-- Gives up every reassembly; each sensor is to be told about the piece accepted last. -/
def drain (table : ShardTable) : ShardTable × List (Identity × ShardAck) :=
  ({ table with assemblies := Keyed.empty },
    table.assemblies.entries.map fun (identity, assembly) =>
      (identity, .reject assembly.shard assembly.lastPiece))

end ShardTable

end SensorGateway
