import SensorGateway.CommandLine.Invocation
import SensorGateway.CommandLine.Outcome
import SensorGateway.Control.Request
import SensorGateway.Gateway.Station

/-!
# Composing control requests

The bytes of a control request are shown for whoever wants to send them by other means. A request
names its sensor; values to be set are entered as a parameter name and hexadecimal data.
-/

namespace SensorGateway.CommandLine

/-- The identity that a text spells; `purpose` is what it was entered for. -/
def enteredIdentity (purpose text : String) : Except Complaint Identity :=
  (Identity.parse text).mapError fun error =>
    { message := "invalid " ++ purpose, cause := some error.message }

/-- The parameter entry that a name, an equals sign and data spell. -/
def enteredEntry (assignment : String) : Except Complaint Entry :=
  let name := String.ofList (assignment.toList.takeWhile (· ≠ '='))
  match assignment.toList.dropWhile (· ≠ '=') with
  | [] => .error { message := s!"expected NAME=HEX, got {Text.quote assignment}" }
  | _ :: hex =>
    match Hex.decodeChars hex with
    | .error error =>
      .error { message := "value of " ++ name, cause := some error.message }
    | .ok data => (Entry.named name data).mapError fun failure => { message := failure.message }

def flagOf (set : Bool) : UInt8 :=
  if set then 1 else 0

/-- The request that was entered; a clock is set to the present unless a date is given. -/
def enteredRequest (clock : Clock) : RequestForm → Except Complaint ControlRequest
  | .reset => .ok .reset
  | .time set epoch => .ok (.time (flagOf set) (epoch.getD clock.seconds))
  | .sensorIdentity none => .ok (.sensorIdentity 0 none)
  | .sensorIdentity (some text) => do
    let identity ← enteredIdentity "new identity" text
    pure (.sensorIdentity 1 (some identity))
  | .generalParameters set assignments => do
    let entries ← assignments.mapM enteredEntry
    pure (.generalParameters (flagOf set) entries)
  | .monitoringDataQuery => .ok .monitoringDataQuery
  | .alarmParametersQuery => .ok .alarmParametersQuery

def showRequest (clock : Clock) (sensor : String) (form : RequestForm) :
    Except Complaint (List String) := do
  let target ← enteredIdentity "sensor identity" sensor
  let request ← enteredRequest clock form
  match request.encode target with
  | .ok bytes => pure [Hex.encodeSpaced bytes]
  | .error failure => throw { message := failure.message }

end SensorGateway.CommandLine
