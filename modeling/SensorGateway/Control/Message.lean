import SensorGateway.Control.Key
import SensorGateway.Envelope.Frame

/-!
# Control messages

A control message is a control frame whose payload has been taken apart into the control byte and
its body. Any frame with a payload can be looked at in this way.
-/

namespace SensorGateway

structure ControlMessage where
  identity : Identity
  paramCount : UInt8
  packetType : PacketType
  key : ControlKey
  body : Bytes
deriving DecidableEq

namespace ControlMessage

def ofFrame (frame : Frame) : Except Failure ControlMessage :=
  match frame.payload with
  | [] => .error (.controlBodyTooShort 1 0)
  | byte :: body =>
    .ok
      { identity := frame.identity
        paramCount := frame.paramCount
        packetType := frame.packetType
        key := ControlKey.ofByte byte
        body }

def flag (message : ControlMessage) : UInt8 :=
  if message.key.set then 1 else 0

def controlByte (message : ControlMessage) : UInt8 :=
  message.key.toByte

def kind? (message : ControlMessage) : Option ControlType :=
  ControlType.ofCode? message.key.controlType

end ControlMessage

end SensorGateway
