import SensorGateway.Bytes.Word

/-!
# The header byte

One byte between identity and payload says what a frame is: the number of parameters in four bits,
whether the payload is a piece of a longer one in one bit, and the packet type in three. All eight
packet types have a name, so every byte is a header; a header built from a larger count keeps the
count modulo sixteen.
-/

namespace SensorGateway

inductive PacketType where
  | monitoring
  | monitoringResponse
  | alarm
  | alarmResponse
  | controlRequest
  | controlResponse
  | shardAck
  | reserved
deriving DecidableEq

namespace PacketType

def ofBits (byte : UInt8) : PacketType :=
  match byte.toNat % 8 with
  | 0 => monitoring
  | 1 => monitoringResponse
  | 2 => alarm
  | 3 => alarmResponse
  | 4 => controlRequest
  | 5 => controlResponse
  | 6 => shardAck
  | _ => reserved

def bits : PacketType → UInt8
  | monitoring => 0
  | monitoringResponse => 1
  | alarm => 2
  | alarmResponse => 3
  | controlRequest => 4
  | controlResponse => 5
  | shardAck => 6
  | reserved => 7

def name : PacketType → String
  | monitoring => "Monitoring"
  | monitoringResponse => "MonitoringResponse"
  | alarm => "Alarm"
  | alarmResponse => "AlarmResponse"
  | controlRequest => "ControlRequest"
  | controlResponse => "ControlResponse"
  | shardAck => "ShardAck"
  | reserved => "Reserved"

/-- Business frames carry measurements and wait for a data status. -/
def isBusiness : PacketType → Bool
  | monitoring | alarm => true
  | _ => false

/-- Control frames carry a control byte and its body. -/
def isControl : PacketType → Bool
  | controlRequest | controlResponse => true
  | _ => false

/-- The packet type of the data status that answers a business frame. -/
def statusResponse? : PacketType → Option PacketType
  | monitoring => some monitoringResponse
  | alarm => some alarmResponse
  | _ => none

end PacketType

structure Header where
  paramCount : UInt8
  fragmented : Bool
  packetType : PacketType
deriving DecidableEq

namespace Header

/-- The header with these fields, the count reduced to four bits. -/
def make (paramCount : UInt8) (fragmented : Bool) (packetType : PacketType) : Header :=
  ⟨paramCount % 16, fragmented, packetType⟩

def ofByte (byte : UInt8) : Header :=
  ⟨byte / 16, byte / 8 % 2 == 1, PacketType.ofBits byte⟩

/-- The byte of a header; only the four low bits of the count count. -/
def toByte (header : Header) : UInt8 :=
  header.paramCount % 16 * 16 + (if header.fragmented then 8 else 0) + header.packetType.bits

end Header

end SensorGateway
