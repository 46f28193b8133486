import SensorGateway.CommandLine.Scan
import SensorGateway.Text.Numeral

/-!
# What the program can be asked to do

`Invocation.ofArguments` reads a command line into one of the jobs below. Texts are kept as they
were entered: that a frame is not hexadecimal is found out when the job is done, but that a date is
no number of four bytes is already a misuse of the program.
-/

namespace SensorGateway.CommandLine

inductive RequestForm where
  | reset
  | time (set : Bool) (epoch : Option UInt32)
  | sensorIdentity (newIdentity : Option String)
  | generalParameters (set : Bool) (assignments : List String)
  | monitoringDataQuery
  | alarmParametersQuery
deriving DecidableEq

inductive Job where
  | checksum (hex : String)
  | decode (hex : String)
  | lookup (key : String)
  | encode (sensor : String) (request : RequestForm)
  | run (settingsPath : Option String)
deriving DecidableEq

structure Invocation where
  verbose : Bool
  job : Job
deriving DecidableEq

namespace Invocation

/-- The date that a text spells as seconds since 1970, if it fits into four bytes. -/
def epoch? (text : String) : Option UInt32 :=
  match Text.integer? text.toList with
  | some seconds =>
    if 0 ≤ seconds ∧ seconds < 0x100000000 then some (UInt32.ofNat seconds.toNat) else none
  | none => none

def verboseRule : OptionRule :=
  { name := "verbose", letter := some 'v', about := "Log all traffic" }

/-- The option that turns a query into a set. -/
def setRule (about : String) : OptionRule :=
  { name := "set", about }

def requests : List Grammar :=
  [{ name := "reset", options := [verboseRule] },
    { name := "time"
      options :=
        [setRule "Set the clock instead of querying it",
          { name := "epoch"
            placeholder := some "EPOCH"
            accepts := fun text => (epoch? text).isSome
            about := "Epoch seconds to set; defaults to now" },
          verboseRule] },
    { name := "sensor-id"
      options :=
        [{ name := "new-id"
           placeholder := some "NEW_ID"
           about := "New identity to assign; omit to query" },
          verboseRule] },
    { name := "general-params"
      options :=
        [setRule "",
          { name := "param"
            placeholder := some "PARAMS"
            repeatable := true
            about := "NAME=HEX value, repeatable; omit to query every parameter" },
          verboseRule] },
    { name := "monitoring-query", options := [verboseRule] },
    { name := "alarm-query", options := [verboseRule] }]

def grammar : Grammar :=
  { name := "sensor-gateway"
    about := "A gateway for wired sensors at the command line"
    options := [verboseRule]
    subcommands :=
      [{ name := "checksum"
         about := "Print the CRC-16/MODBUS checksum of hex input"
         options := [verboseRule]
         operands := ["HEX"] },
        { name := "decode"
          about := "Decode a frame and its parameters as JSON"
          options := [verboseRule]
          operands := ["HEX"] },
        { name := "lookup"
          about := "Look up a parameter by type code (decimal or 0x-prefixed) or name"
          options := [verboseRule]
          operands := ["KEY"] },
        { name := "encode"
          about := "Encode a control request"
          options :=
            [{ name := "sensor"
               letter := some 's'
               placeholder := some "SENSOR"
               needed := true
               about := "Target sensor identity, 12 hex characters" },
              verboseRule]
          subcommands := requests },
        { name := "run"
          about := "Run the gateway over hex frames read line by line from stdin"
          options :=
            [{ name := "config"
               letter := some 'c'
               placeholder := some "CONFIG"
               accepts := fun text => !text.isEmpty },
              verboseRule] }] }

def request? (level : Level) : Option RequestForm :=
  match level.name with
  | "reset" => some .reset
  | "time" => some (.time (level.has "set") ((level.value? "epoch").bind epoch?))
  | "sensor-id" => some (.sensorIdentity (level.value? "new-id"))
  | "general-params" => some (.generalParameters (level.has "set") (level.values "param"))
  | "monitoring-query" => some .monitoringDataQuery
  | "alarm-query" => some .alarmParametersQuery
  | _ => none

def job? (level : Level) (inner : List Level) : Option Job :=
  match level.name, level.operands, inner with
  | "checksum", [hex], [] => some (.checksum hex)
  | "decode", [hex], [] => some (.decode hex)
  | "lookup", [key], [] => some (.lookup key)
  | "encode", [], [request] => do
    some (.encode (← level.value? "sensor") (← request? request))
  | "run", [], [] => some (.run (level.value? "config"))
  | _, _, _ => none

def ofArguments (arguments : List String) : Except Stop Invocation :=
  match grammar.read arguments with
  | .error stop => .error stop
  | .ok levels =>
    match levels with
    | _ :: level :: inner =>
      match job? level inner with
      | some job => .ok { verbose := levels.any fun level => level.has "verbose", job }
      | none => .error .misuse
    | _ => .error .misuse

end Invocation

end SensorGateway.CommandLine
