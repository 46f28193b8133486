import SensorGateway.Bytes.Checksum
import SensorGateway.Envelope.Header
import SensorGateway.Failure

/-!
# Frames

A frame is an identity, a header byte, a payload of any length and the checksum of all that. The
shortest frame has nine bytes. `decode` checks the length, then the checksum, and reads nothing
else before both hold; `encode` computes the checksum afresh. `peek` reads identity and header of a
frame that failed its checksum, so that the failure can be reported to whoever seems to have sent
it.
-/

namespace SensorGateway

/-- A frame taken apart. Frames from `decode` and `make` carry their own checksum and a count below
sixteen. -/
structure Frame where
  identity : Identity
  paramCount : UInt8
  fragmented : Bool
  packetType : PacketType
  payload : Bytes
  checksum : UInt16
deriving DecidableEq

namespace Frame

/-- Identity, header byte and checksum without any payload. -/
def minimumLength : Nat := 9

/-- The header of a frame, its count reduced to four bits. -/
def header (frame : Frame) : Header :=
  Header.make frame.paramCount frame.fragmented frame.packetType

/-- Everything that the checksum covers. -/
def covered (identity : Identity) (header : Header) (payload : Bytes) : Bytes :=
  identity.bytes ++ header.toByte :: payload

def make (identity : Identity) (header : Header) (payload : Bytes) : Frame :=
  { identity
    paramCount := header.paramCount
    fragmented := header.fragmented
    packetType := header.packetType
    payload
    checksum :=
      SensorGateway.checksum
        (covered identity
          (Header.make header.paramCount header.fragmented header.packetType) payload) }

/-- The bytes of a frame, with the checksum they need. -/
def encode (frame : Frame) : Bytes :=
  withChecksum (covered frame.identity frame.header frame.payload)

/-- The identity, the header and the payload in the bytes before a checksum. -/
def split? (body : Bytes) : Option (Identity × Header × Bytes) :=
  if h : (body.take 6).length = 6 then
    match body.drop 6 with
    | byte :: payload => some (⟨body.take 6, h⟩, Header.ofByte byte, payload)
    | [] => none
  else none

def decode (raw : Bytes) : Except Failure Frame :=
  if raw.length < minimumLength then .error (.frameTooShort raw.length minimumLength)
  else
    let body := raw.take (raw.length - 2)
    let received := UInt16.ofNat (Bytes.toNatBE (raw.drop (raw.length - 2)))
    let calculated := SensorGateway.checksum body
    if received ≠ calculated then .error (.checksumMismatch received calculated)
    else
      match split? body with
      | none => .error (.frameTooShort raw.length minimumLength)
      | some (identity, header, payload) =>
        .ok
          { identity
            paramCount := header.paramCount
            fragmented := header.fragmented
            packetType := header.packetType
            payload
            checksum := received }

/-- Identity and header of a byte string whose checksum nobody has looked at. -/
def peek (raw : Bytes) : Except Failure (Identity × Header) :=
  if raw.length < minimumLength then .error (.frameTooShort raw.length minimumLength)
  else
    match split? (raw.take (raw.length - 2)) with
    | none => .error (.frameTooShort raw.length minimumLength)
    | some (identity, header, _) => .ok (identity, header)

end Frame

/-- How a business frame was received. -/
inductive DataStatus where
  | success
  | failure
deriving DecidableEq

def DataStatus.byte : DataStatus → UInt8
  | .success => 0xFF
  | .failure => 0x00

def DataStatus.encode (status : DataStatus) (identity : Identity) (header : Header) : Bytes :=
  (Frame.make identity header [status.byte]).encode

end SensorGateway
