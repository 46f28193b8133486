import SensorGateway.Control.Request
import SensorGateway.Gateway.Station

/-!
# Device commands

An operator commands a device by writing one to a resource of its own name. The command becomes a
control request under the identity that is stored for the device. Every other value is ignored, and
nothing is sent unless the command, the device and its identity are all known.
-/

namespace SensorGateway

inductive DeviceCommand where
  | timeQuery
  | timeSet
  | reset
  | identityQuery
  | generalParameterQuery
  | alarmParameterQuery
  | monitoringDataQuery
deriving DecidableEq

namespace DeviceCommand

def all : List DeviceCommand :=
  [timeQuery, timeSet, reset, identityQuery, generalParameterQuery, alarmParameterQuery,
    monitoringDataQuery]

def resource : DeviceCommand → String
  | timeQuery => "Time_Parameter_Query"
  | timeSet => "Time_Parameter_Set"
  | reset => "Reset_Set"
  | identityQuery => "ID_Query"
  | generalParameterQuery => "General_Parameter_Query"
  | alarmParameterQuery => "Alarm_Parameter_Query"
  | monitoringDataQuery => "Monitoring_Data_Query"

def ofResource (resource : String) : Except Failure DeviceCommand :=
  match all.find? fun command => command.resource == resource with
  | some command => .ok command
  | none => .error (.unknownCommand resource)

/-- The request of a command; only setting the clock looks at the date. -/
def request (command : DeviceCommand) (seconds : UInt32) : ControlRequest :=
  match command with
  | timeQuery => .time 0 0
  | timeSet => .time 1 seconds
  | reset => .reset
  | identityQuery => .sensorIdentity 0 none
  | generalParameterQuery => .generalParameters 0 []
  | alarmParameterQuery => .alarmParametersQuery
  | monitoringDataQuery => .monitoringDataQuery

end DeviceCommand

namespace Station

/-- Sends a command to a device; the answer is the bytes that were sent. -/
def issue (station : Station) (device : String) (command : DeviceCommand) :
    Station × Except Failure Bytes :=
  if !station.store.contains device then (station, .error (.unknownDevice device))
  else
    match station.store.identity? device with
    | none => (station, .error (.missingIdentity device))
    | some target =>
      match (command.request station.clock.seconds).encode target with
      | .error failure => (station, .error failure)
      | .ok bytes =>
        if station.line.isOpen then (station.send target bytes, .ok bytes)
        else (station, .error .transportClosed)

/-- Handles a value written to a resource of a device; the answer says whether a command was
sent. -/
def handleWrite (station : Station) (device resource : String) (value : Value) :
    Station × Except Failure Bool :=
  match DeviceCommand.ofResource resource with
  | .error failure => (station, .error failure)
  | .ok command =>
    if value.integer? ≠ some 1 then (station, .ok false)
    else
      let (station, result) := station.issue device command
      (station, result.map fun _ => true)

end Station

end SensorGateway
