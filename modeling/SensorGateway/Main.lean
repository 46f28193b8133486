import SensorGateway.CommandLine.Program
import Std.Time.DateTime.Timestamp

/-!
# The program at the terminal

Everything here prints or waits; what is printed is decided by `CommandLine.Program`. While a
session waits for its next line its clocks go on, so that reassemblies are given up on time.
-/

namespace SensorGateway.CommandLine.Terminal

/-- The two clocks, the forward one counting from `origin`. -/
def readClock (origin : Nat) : IO Clock := do
  let now ← IO.monoMsNow
  let date ← Std.Time.Timestamp.now
  pure { now := now - origin, date := date.toNanosecondsSinceUnixEpoch.val }

def contents? (path : String) : IO (Option ByteArray) := do
  try
    let contents ← IO.FS.readBinFile path
    pure (some contents)
  catch _ => pure none

def put (printed : Printed) : IO Unit := do
  let output ← IO.getStdout
  let errors ← IO.getStderr
  for line in printed.output do
    output.putStrLn line
  for line in printed.errors do
    errors.putStrLn line
  output.flush
  errors.flush

def conclude (outcome : Outcome) : IO UInt32 := do
  put outcome.printed
  pure outcome.code.toUInt32

/-- Keeps the clocks of a session going until a line has arrived. -/
partial def await (origin : Nat) (line : Task (Except IO.Error String)) (session : Session) :
    IO Session := do
  if ← IO.hasFinished line then pure session
  else
    IO.sleep 10
    let clock ← readClock origin
    let (printed, session) := session.advance clock
    put printed
    await origin line session

partial def serve (origin : Nat) (input : IO.FS.Stream) (session : Session) : IO UInt32 := do
  let line ← IO.asTask input.getLine
  let session ← await origin line session
  let clock ← readClock origin
  let (printed, session) := session.advance clock
  put printed
  match line.get with
  | .error error => conclude (.failed {} { message := toString error })
  | .ok text =>
    if text.isEmpty then conclude (.done session.finish)
    else
      match session.feed text with
      | (printed, .ok session) =>
        put printed
        serve origin input session
      | (printed, .error complaint) => conclude (.failed printed complaint)

def perform (invocation : Invocation) : IO UInt32 := do
  let origin ← IO.monoMsNow
  let clock ← readClock origin
  match invocation.job with
  | .run path =>
    let contents ←
      match path with
      | some path => contents? path
      | none => pure none
    match Program.session invocation.verbose clock contents path with
    | .error complaint => conclude (.failed {} complaint)
    | .ok session => serve origin (← IO.getStdin) session
  | _ => conclude (Program.perform { clock, file? := fun _ => none, input := [] } invocation)

end SensorGateway.CommandLine.Terminal

def main (arguments : List String) : IO UInt32 :=
  match SensorGateway.CommandLine.Invocation.ofArguments arguments with
  | .error stop =>
    SensorGateway.CommandLine.Terminal.conclude (SensorGateway.CommandLine.Program.stopped stop)
  | .ok invocation => SensorGateway.CommandLine.Terminal.perform invocation
