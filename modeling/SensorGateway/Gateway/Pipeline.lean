import SensorGateway.Gateway.Processing
import SensorGateway.Gateway.Queue
import SensorGateway.Gateway.Settings

/-!
# The pipeline

Two tasks run side by side. The intake takes frames from the inbound queue and processes them; a
piece goes on to the second queue, and is dropped when that queue is full, so that a slow reassembly
never holds up the frames behind it. The shard task takes pieces from the second queue, submits them
to the engine and routes the frames that become whole. Every step of a task is a function on the
pipeline, and any interleaving of the steps is a run.
-/

namespace SensorGateway

/-- What the platform cannot do. -/
inductive Fault where
  | queueTooDeep
  /-- A deadline lies beyond the end of the clock. -/
  | clockOverflow
deriving DecidableEq

def Fault.message : Fault → String
  | .queueTooDeep => s!"a queue can hold at most {Queue.maximumCapacity} entries"
  | .clockOverflow => "a deadline lies beyond the end of the clock"

inductive StartError where
  | refused (failure : Failure)
  | fault (fault : Fault)
deriving DecidableEq

structure Pipeline where
  station : Station
  engine : Engine
  inbound : Queue Bytes
  pieces : Queue Frame
  accepting : Bool
  intakeRuns : Bool
  shardsRun : Bool
  /-- What has brought a task down. -/
  fault : Option Fault
deriving DecidableEq

namespace Pipeline

/-- Writes the canonical identity of every configured device to the store, up to the first spelling
that is no identity. -/
def seed (store : Store) : List DeviceMapping → Store × Except Failure Unit
  | [] => (store, .ok ())
  | mapping :: rest =>
    match Identity.parse mapping.identity with
    | .error cause => (store, .error (.invalidIdentity cause))
    | .ok identity =>
      seed (store.write mapping.device Store.identityResource (.text identity.toHex)) rest

def start (settings : Settings) (station : Station) : Station × Except StartError Pipeline :=
  match settings.validate with
  | .error cause => (station, .error (.refused (.invalidSettings cause)))
  | .ok () =>
    match seed station.store settings.devices with
    | (store, .error failure) => ({ station with store }, .error (.refused failure))
    | (store, .ok ()) =>
      let station := { station with store, sourceTag := settings.sourceTag }
      if Queue.maximumCapacity < settings.inboundDepth ∨
          Queue.maximumCapacity < settings.shardDepth then
        (station, .error (.fault .queueTooDeep))
      else
        (station,
          .ok
            { station
              engine := Engine.make settings.timeout
              inbound := Queue.fresh settings.inboundDepth
              pieces := Queue.fresh settings.shardDepth
              accepting := true
              intakeRuns := true
              shardsRun := true
              fault := none })

/-- Submits a frame: `none` if it has to wait for room in the queue. -/
def submit? (pipeline : Pipeline) (raw : Bytes) : Option (Except Failure Pipeline) :=
  if !pipeline.accepting || !pipeline.intakeRuns then some (.error .shutDown)
  else (pipeline.inbound.push? raw).map fun inbound => .ok { pipeline with inbound }

/-- Hands a piece from the intake to the shard task. A full queue loses the piece, and a shard task
that has ended ends the intake as well. -/
def forward (pipeline : Pipeline) (frame : Frame) : Pipeline :=
  if !pipeline.shardsRun then
    { pipeline with intakeRuns := false, inbound := pipeline.inbound.emptied }
  else
    match pipeline.pieces.push? frame with
    | some pieces => { pipeline with pieces }
    | none => pipeline

/-- One step of the intake: a frame is processed, or the intake ends because there will be no more.
There is no step while the intake waits. -/
def intakeStep? (pipeline : Pipeline) : Option Pipeline :=
  if !pipeline.intakeRuns then none
  else
    match pipeline.inbound.pop? with
    | none => if pipeline.accepting then none else some { pipeline with intakeRuns := false }
    | some (raw, inbound) =>
      let (station, disposition) := pipeline.station.handleRaw raw
      let pipeline := { pipeline with station, inbound }
      match disposition with
      | .fragment frame => some (pipeline.forward frame)
      | _ => some pipeline

/-- One step of the shard task: a piece is submitted and the frame it completes is routed, or the
task ends because there will be no more pieces. A deadline that the clock cannot show brings the
task down. The engine is then left as it was before the piece, although a generation has been given
out by then or the piece has been taken in: nothing is to be read off the engine after a fault. -/
def shardStep? (pipeline : Pipeline) : Option Pipeline :=
  if !pipeline.shardsRun then none
  else
    match pipeline.pieces.pop? with
    | none => if pipeline.intakeRuns then none else some { pipeline with shardsRun := false }
    | some (frame, pieces) =>
      let (station, engine, submission) := pipeline.station.submit pipeline.engine frame
      if submission.progress.any fun deadline => Clock.limit ≤ deadline then
        some
          { pipeline with
            pieces := pieces.emptied
            shardsRun := false
            fault := some .clockOverflow }
      else
        let station :=
          match submission.result with
          | .ok (some whole) => (station.handleReassembled whole).1
          | _ => station
        some { pipeline with station, engine, pieces }

/-- Runs a task for at most `count` steps, until it waits or has ended. -/
def runTask (step? : Pipeline → Option Pipeline) : Nat → Pipeline → Pipeline
  | 0, pipeline => pipeline
  | count + 1, pipeline =>
    match step? pipeline with
    | none => pipeline
    | some next => runTask step? count next

/-- Lets the intake run until it waits or has ended, and then the shard task. -/
def settle (pipeline : Pipeline) : Pipeline :=
  let pipeline := runTask intakeStep? (pipeline.inbound.items.length + 1) pipeline
  runTask shardStep? (pipeline.pieces.items.length + 1) pipeline

def advance (pipeline : Pipeline) (duration : Time) : Pipeline :=
  let (station, engine) := pipeline.station.advance pipeline.engine duration
  { pipeline with station, engine }

def close (pipeline : Pipeline) : Pipeline :=
  { pipeline with accepting := false }

/-- Accepts no more frames, lets both tasks finish what is queued, and shuts the engine down. -/
def shutdown (pipeline : Pipeline) : Pipeline :=
  let pipeline := pipeline.close.settle
  let (station, engine) := pipeline.station.shutdown pipeline.engine
  { pipeline with station, engine }

/-- Ends both tasks at once. The engine and its timers live on. -/
def abandon (pipeline : Pipeline) : Pipeline :=
  { pipeline with
    accepting := false
    intakeRuns := false
    shardsRun := false
    inbound := pipeline.inbound.emptied
    pieces := pipeline.pieces.emptied }

end Pipeline

end SensorGateway
