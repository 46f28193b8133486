import SensorGateway.Shard.Table

/-!
# The shard engine

The engine runs the timers of a reassembly table. A reassembly gets one timer when it is opened.
The timer sleeps until the deadline it was given; when it wakes up, it gives the reassembly up, or
goes on sleeping if there has been progress meanwhile, or finds that it is no longer needed. Every
piece is answered, and a whole frame is not. After the engine has been shut down every frame is
answered, and negatively.
-/

namespace SensorGateway

structure Timer where
  generation : Nat
  wake : Time
deriving DecidableEq

structure Engine where
  table : ShardTable
  timers : Keyed Identity Timer
  isShutDown : Bool
deriving DecidableEq

structure Submission where
  /-- The answer to the sensor, for a piece. -/
  ack : Option ShardAck
  result : Except Failure (Option Frame)
  /-- The deadline that was set, if the frame opened a reassembly or brought one forward. -/
  progress : Option Time

namespace Engine

def make (timeout : Time) : Engine :=
  ⟨ShardTable.make timeout, Keyed.empty, false⟩

def active (engine : Engine) : Nat :=
  engine.table.active

def adjust (timers : Keyed Identity Timer) (identity : Identity) :
    TimerAction → Keyed Identity Timer
  | .start generation deadline => timers.insert identity ⟨generation, deadline⟩
  | .cancel => timers.erase identity
  | .keep => timers

def submit (engine : Engine) (frame : Frame) (now : Time) : Engine × Submission :=
  if engine.isShutDown then
    let (shard, piece) := ShardPiece.peek frame.payload
    (engine, ⟨some (.reject shard piece), .error .shutDown, none⟩)
  else
    let (table, outcome) := engine.table.process frame now
    let timers := adjust engine.timers frame.identity outcome.timer
    ({ engine with table, timers },
      ⟨if frame.fragmented then some outcome.ack else none, .ok outcome.completed,
        outcome.progress⟩)

/-- What happens when a timer of a generation wakes up: perhaps an answer has to be sent. The
generation need not be the one that the sensor's current timer is for. -/
def poll (engine : Engine) (identity : Identity) (generation : Nat) (now : Time) :
    Engine × Option ShardAck :=
  match engine.table.expire identity generation now with
  | (table, .evicted ack) =>
    ({ engine with table, timers := engine.timers.erase identity }, some ack)
  | (table, .pending deadline) =>
    ({ engine with table, timers := engine.timers.insert identity ⟨generation, deadline⟩ }, none)
  | (table, .gone) => ({ engine with table }, none)

/-- The timer that wakes up first, if one does so until `limit`. -/
def nextTimer? (engine : Engine) (limit : Time) : Option (Identity × Timer) :=
  engine.timers.entries.foldl
    (fun found entry =>
      if limit < entry.2.wake then found
      else
        match found with
        | some earliest => if entry.2.wake < earliest.2.wake then some entry else found
        | none => some entry)
    none

/-- Lets at most `count` timers wake up until `limit`, each at its time, and collects the answers
with the moments at which they are sent. -/
def wakeWithin : Nat → Engine → Time → Engine × List (Time × Identity × ShardAck)
  | 0, engine, _ => (engine, [])
  | count + 1, engine, limit =>
    match engine.nextTimer? limit with
    | none => (engine, [])
    | some (identity, timer) =>
      let (engine, answer) := engine.poll identity timer.generation timer.wake
      let (engine, later) := wakeWithin count engine limit
      (engine, (answer.toList.map fun ack => (timer.wake, identity, ack)) ++ later)

/-- Lets time pass until `limit`. While no frame arrives a timer wakes up at most twice, once at
the deadline it was given and once at the one that progress has set. -/
def advance (engine : Engine) (limit : Time) : Engine × List (Time × Identity × ShardAck) :=
  wakeWithin (2 * engine.timers.size) engine limit

def shutdown (engine : Engine) : Engine × List (Identity × ShardAck) :=
  let (table, answers) := engine.table.drain
  ({ table, timers := Keyed.empty, isShutDown := true }, answers)

end Engine

end SensorGateway
