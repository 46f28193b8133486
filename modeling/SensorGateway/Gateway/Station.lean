import SensorGateway.Device.Directory
import SensorGateway.Device.Store
import SensorGateway.Gateway.Channel
import SensorGateway.Shard.Engine

/-!
# The station

A station is all that the gateway acts upon: the directory of sensors, the value store, the line to
the sensors, the line to whoever takes reports, and the two clocks. The steps of the gateway are
functions from one station to the next.
-/

namespace SensorGateway

structure Sent where
  moment : Time
  target : Identity
  bytes : Bytes
deriving DecidableEq

structure Report where
  device : String
  sourceTag : String
  values : ValueMap
deriving DecidableEq

/-- The two clocks: one that only moves forward, and the date in nanoseconds since 1970. -/
structure Clock where
  now : Time
  date : Int
deriving DecidableEq

namespace Clock

/-- The first moment that the forward clock cannot show: it counts signed seconds in sixty-four
bits, and it shows one second at moment zero. -/
def limit : Time := 0x7FFFFFFFFFFFFFFF * 1000

/-- The date in nanoseconds, or zero if it does not fit into sixty-four bits. -/
def nanoseconds (clock : Clock) : Int64 :=
  if -0x8000000000000000 ≤ clock.date ∧ clock.date < 0x8000000000000000 then
    Int64.ofInt clock.date
  else 0

/-- The date in seconds, or the largest word of four bytes if it does not fit into one. -/
def seconds (clock : Clock) : UInt32 :=
  let seconds := clock.date / 1000000000
  if 0 ≤ seconds ∧ seconds < 0x100000000 then UInt32.ofNat seconds.toNat else 0xFFFFFFFF

end Clock

structure Station where
  directory : Directory
  store : Store
  line : Channel Sent
  reports : Channel Report
  sourceTag : String
  clock : Clock
deriving DecidableEq

namespace Station

def empty (sourceTag : String) : Station :=
  { directory := Directory.empty
    store := Store.empty
    line := Channel.fresh
    reports := Channel.fresh
    sourceTag
    clock := ⟨0, 0⟩ }

def sendAt (station : Station) (moment : Time) (target : Identity) (bytes : Bytes) : Station :=
  { station with line := station.line.send ⟨moment, target, bytes⟩ }

def send (station : Station) (target : Identity) (bytes : Bytes) : Station :=
  station.sendAt station.clock.now target bytes

def sendAll (station : Station) (frames : List (Identity × Bytes)) : Station :=
  frames.foldl (fun station frame => station.send frame.1 frame.2) station

def report (station : Station) (device : String) (values : ValueMap) : Station :=
  { station with reports := station.reports.send ⟨device, station.sourceTag, values⟩ }

def write (station : Station) (device resource : String) (value : Value) : Station :=
  { station with store := station.store.write device resource value }

/-- Submits a frame to an engine and sends the answer. -/
def submit (station : Station) (engine : Engine) (frame : Frame) :
    Station × Engine × Submission :=
  let (engine, submission) := engine.submit frame station.clock.now
  let station :=
    match submission.ack with
    | some ack => station.send frame.identity (ack.encode frame.identity)
    | none => station
  (station, engine, submission)

/-- Lets time pass on the forward clock and lets the timers of an engine wake up meanwhile. -/
def advance (station : Station) (engine : Engine) (duration : Time) : Station × Engine :=
  let limit := station.clock.now + duration
  let (engine, answers) := engine.advance limit
  let station :=
    answers.foldl
      (fun station (moment, identity, ack) => station.sendAt moment identity (ack.encode identity))
      station
  ({ station with clock := { station.clock with now := limit } }, engine)

/-- Submits a frame and lets the timers wake up that are due at this moment. In an engine that gives
reassemblies up after no time at all, a timer is due as soon as it starts. -/
def deliver (station : Station) (engine : Engine) (frame : Frame) :
    Station × Engine × Submission :=
  let (station, engine, submission) := station.submit engine frame
  let (station, engine) := station.advance engine 0
  (station, engine, submission)

/-- Shuts an engine down and tells the sensors whose shards are given up. -/
def shutdown (station : Station) (engine : Engine) : Station × Engine :=
  let (engine, answers) := engine.shutdown
  (station.sendAll (answers.map fun (identity, ack) => (identity, ack.encode identity)), engine)

end Station

end SensorGateway
