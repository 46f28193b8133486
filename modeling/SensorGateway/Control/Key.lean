import SensorGateway.Bytes.Word

/-!
# Control bytes

The first byte of a control payload names a control type in seven bits and says in the last bit
whether something is set or only asked for. Seven types are known. Which handler a reply goes to
depends on both parts.
-/

namespace SensorGateway

inductive ControlType where
  | generalParameters
  | monitoringData
  | alarmParameters
  | time
  | sensorIdentity
  | reset
  | resetTrigger
deriving DecidableEq

namespace ControlType

def ofCode? (code : UInt8) : Option ControlType :=
  match code.toNat with
  | 1 => some generalParameters
  | 2 => some monitoringData
  | 3 => some alarmParameters
  | 4 => some time
  | 5 => some sensorIdentity
  | 6 => some reset
  | 7 => some resetTrigger
  | _ => none

def code : ControlType → UInt8
  | generalParameters => 1
  | monitoringData => 2
  | alarmParameters => 3
  | time => 4
  | sensorIdentity => 5
  | reset => 6
  | resetTrigger => 7

theorem ofCode?_code (type : ControlType) : ofCode? type.code = some type := by
  cases type <;> rfl

end ControlType

structure ControlKey where
  controlType : UInt8
  set : Bool
deriving DecidableEq

inductive ControlHandler where
  /-- A parameter list, treated like that of a business frame. -/
  | commonParameters
  | timestamp
  | resetAck
  /-- The sensor asks to be reset. -/
  | resetTrigger
deriving DecidableEq

namespace ControlKey

def ofByte (byte : UInt8) : ControlKey :=
  ⟨byte / 2, byte % 2 == 1⟩

/-- The byte of a key; only the seven low bits of the type count. -/
def toByte (key : ControlKey) : UInt8 :=
  key.controlType % 128 * 2 + if key.set then 1 else 0

/-- The handler of a key. Replies about identities are nobody's, and a reset is only asked for. -/
def handler? (key : ControlKey) : Option ControlHandler :=
  match ControlType.ofCode? key.controlType, key.set with
  | some .generalParameters, _ | some .monitoringData, _ | some .alarmParameters, _ =>
    some .commonParameters
  | some .time, _ => some .timestamp
  | some .reset, _ => some .resetAck
  | some .resetTrigger, false => some .resetTrigger
  | some .resetTrigger, true | some .sensorIdentity, _ | none, _ => none

end ControlKey

end SensorGateway
