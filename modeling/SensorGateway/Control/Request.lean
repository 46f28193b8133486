import SensorGateway.Control.Message
import SensorGateway.Parameter.Entry

/-!
# Control requests

A request asks a sensor for something or sets something there. Its frame is an unfragmented control
request whose payload is the control byte and a body. A query carries no data of its own: where the
body has a fixed length it is filled with zeros. The header counts the named parameters, fifteen
standing for all of them and sixteen wrapping to zero.
-/

namespace SensorGateway

/-- A request, whoever it is for. The flag is zero for a query and one for a set. -/
inductive ControlRequest where
  | reset
  | time (flag : UInt8) (seconds : UInt32)
  | sensorIdentity (flag : UInt8) (identity : Option Identity)
  /-- Without entries only a query makes sense; it asks for every parameter. -/
  | generalParameters (flag : UInt8) (entries : List Entry)
  | monitoringDataQuery
  | alarmParametersQuery
deriving DecidableEq

namespace ControlRequest

/-- The header count that stands for all parameters. -/
def allParameters : UInt8 := 15

def maximumEntries : Nat := 16

/-- Whether a flag means a set, if it means anything. -/
def checkFlag (flag : UInt8) : Except Failure Bool :=
  if flag = 0 then .ok false else if flag = 1 then .ok true else .error (.invalidFlag flag)

def frame (target : Identity) (paramCount : UInt8) (controlType : ControlType) (set : Bool)
    (body : Bytes) : Frame :=
  Frame.make target (Header.make paramCount false .controlRequest)
    ((ControlKey.mk controlType.code set).toByte :: body)

def controlType : ControlRequest → ControlType
  | reset => .reset
  | time .. => .time
  | sensorIdentity .. => .sensorIdentity
  | generalParameters .. => .generalParameters
  | monitoringDataQuery => .monitoringData
  | alarmParametersQuery => .alarmParameters

def entriesBody (entries : List Entry) : Bytes :=
  entries.flatMap Entry.encode

def toFrame (request : ControlRequest) (target : Identity) : Except Failure Frame :=
  let build := fun paramCount set body => frame target paramCount request.controlType set body
  match request with
  | reset => .ok (build 0 false [])
  | time flag seconds => do
    let set ← checkFlag flag
    pure (build 0 set (Bytes.ofNatLE 4 (if set then seconds.toNat else 0)))
  | sensorIdentity flag identity => do
    let set ← checkFlag flag
    let carried := if set then identity.getD Identity.blank else Identity.blank
    pure (build 0 set carried.bytes)
  | generalParameters flag entries => do
    let set ← checkFlag flag
    if entries.isEmpty && !set then pure (build allParameters set [])
    else if entries.isEmpty || maximumEntries < entries.length then
      .error (.invalidParameterCount entries.length maximumEntries)
    else pure (build (UInt8.ofNat (entries.length % 16)) set (entriesBody entries))
  | monitoringDataQuery | alarmParametersQuery => .ok (build allParameters false [])

def encode (request : ControlRequest) (target : Identity) : Except Failure Bytes :=
  (request.toFrame target).map Frame.encode

def resetBytes (target : Identity) : Bytes :=
  (frame target 0 .reset false []).encode

def monitoringDataBytes (target : Identity) : Bytes :=
  (frame target allParameters .monitoringData false []).encode

def alarmParametersBytes (target : Identity) : Bytes :=
  (frame target allParameters .alarmParameters false []).encode

end ControlRequest

end SensorGateway
