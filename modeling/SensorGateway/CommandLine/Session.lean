import SensorGateway.Bytes.Dump
import SensorGateway.CommandLine.Outcome
import SensorGateway.Gateway.Pipeline

/-!
# A gateway session

A session runs the gateway over frames that arrive as lines of hexadecimal text. Empty lines and
lines that begin with `#` are comments. What the gateway sends and reports is printed line by line;
a line that is not hexadecimal is skipped and named on the error output.
-/

namespace SensorGateway.CommandLine

structure Session where
  verbose : Bool
  pipeline : Pipeline
deriving DecidableEq

namespace Session

def sentLine (sent : Sent) : String :=
  s!"TX {sent.target.toHex} {Hex.encodeSpaced sent.bytes}"

def reportLine (report : Report) : String :=
  s!"REPORT {report.device} {report.sourceTag} {report.values.toJson.compact}"

def drain (session : Session) : Printed × Session :=
  let station := session.pipeline.station
  let sent := station.line.delivered
  let printed : Printed :=
    { output := sent.map sentLine ++ station.reports.delivered.map reportLine
      errors := sent.flatMap fun sent => Bytes.traffic session.verbose "TX" sent.bytes }
  let station :=
    { station with line := station.line.emptied, reports := station.reports.emptied }
  (printed, { session with pipeline := { session.pipeline with station } })

def start (verbose : Bool) (clock : Clock) (settings : Settings) : Except Complaint Session := do
  let complain := fun failure : Failure => { message := failure.message : Complaint }
  let directory ← settings.directory.mapError complain
  let station := { Station.empty settings.sourceTag with directory, clock }
  match (Pipeline.start settings station).2 with
  | .ok pipeline => pure { verbose, pipeline }
  | .error (.refused failure) => throw (complain failure)
  | .error (.fault fault) => throw { message := fault.message }

/-- Lets the clocks move on; timers that have run out meanwhile wake up. -/
def advance (session : Session) (clock : Clock) : Printed × Session :=
  let pipeline := session.pipeline.advance (clock.now - session.pipeline.station.clock.now)
  let station := { pipeline.station with clock }
  drain { session with pipeline := { pipeline with station } }

def submit (session : Session) (raw : Bytes) : Printed × Except Complaint Session :=
  match session.pipeline.submit? raw with
  | none => ({}, .ok session)
  | some (.error failure) => ({}, .error { message := failure.message })
  | some (.ok pipeline) =>
    let (printed, session) := drain { session with pipeline := pipeline.settle }
    ({ errors := Bytes.traffic session.verbose "RX" raw } ++ printed, .ok session)

def feed (session : Session) (line : String) : Printed × Except Complaint Session :=
  match Text.trim line.toList with
  | [] | '#' :: _ => ({}, .ok session)
  | text =>
    match Hex.decodeLenient (String.ofList text) with
    | .error error => ({ errors := ["skipping line: " ++ error.message] }, .ok session)
    | .ok raw => session.submit raw

def finish (session : Session) : Printed :=
  (drain { session with pipeline := session.pipeline.shutdown }).1

/-- Takes all lines of an input, however much has been printed before, and ends the session. -/
def runLines (printed : Printed) (session : Session) : List String → Outcome
  | [] => .done (printed ++ session.finish)
  | line :: rest =>
    match session.feed line with
    | (more, .ok session) => runLines (printed ++ more) session rest
    | (more, .error complaint) => .failed (printed ++ more) complaint

end Session

end SensorGateway.CommandLine
