import SensorGateway.CommandLine.Composition
import SensorGateway.CommandLine.Description
import SensorGateway.CommandLine.Inspection
import SensorGateway.CommandLine.Session

/-!
# The program

`Program.run` is the whole program as a function: its arguments and what it can see of the world go
in, and what it prints and its exit code come out. Printing while the input is
still arriving is left to the outermost layer, which takes the same steps one by one.
-/

namespace SensorGateway.CommandLine

structure Surroundings where
  clock : Clock
  file? : String → Option ByteArray
  input : List String

namespace Program

def stopped : Stop → Outcome
  | .help path => .done { output := Grammar.description path }
  | .misuse => .misused ["error: the arguments make no sense; for more information, try --help"]

/-- The settings under a path, given the contents of the file there; without a path the default
ones. -/
def settings (contents : Option ByteArray) : Option String → Except Complaint Settings
  | none => .ok {}
  | some path =>
    (Settings.ofFile contents).mapError fun failure =>
      { message := "loading " ++ path, cause := some failure.message }

def session (verbose : Bool) (clock : Clock) (contents : Option ByteArray)
    (path : Option String) : Except Complaint Session := do
  let settings ← settings contents path
  Session.start verbose clock settings

def perform (surroundings : Surroundings) (invocation : Invocation) : Outcome :=
  match invocation.job with
  | .checksum hex => .ofResult (showChecksum hex)
  | .decode hex => .ofResult (showFrame hex)
  | .lookup key => .ofResult (showParameter key)
  | .encode sensor request => .ofResult (showRequest surroundings.clock sensor request)
  | .run path =>
    match session invocation.verbose surroundings.clock (path.bind surroundings.file?) path with
    | .error complaint => .failed {} complaint
    | .ok session => session.runLines {} surroundings.input

def run (surroundings : Surroundings) (arguments : List String) : Outcome :=
  match Invocation.ofArguments arguments with
  | .error stop => stopped stop
  | .ok invocation => perform surroundings invocation

end Program

end SensorGateway.CommandLine
