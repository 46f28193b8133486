import SensorGateway.Envelope.Identity

/-!
# What can go wrong

Every refusal of the gateway is one of the causes below, and `message` is its wording. Only a frame
that is too short or fails its checksum is lost as a whole (`isFrameFatal`); every other failure is
local to one parameter, one control message, one piece or one command, and the gateway goes on.
-/

namespace SensorGateway

/-- The data lengths that a kind of value admits. -/
inductive Width where
  | exactly (bytes : Nat)
  | multipleOf (bytes : Nat)
deriving DecidableEq

def Width.text : Width → String
  | .exactly bytes => s!"{bytes} bytes"
  | .multipleOf bytes => s!"a multiple of {bytes} bytes"

inductive PieceError where
  /-- Fewer than the four bytes of the piece header. -/
  | shortHeader (actual : Nat)
  /-- The header declares more data than follows it. -/
  | shortData (declared available : Nat)
deriving DecidableEq

inductive SettingsError where
  | zeroTimeout
  | zeroQueueDepth
  | device (name : String) (cause : IdentityError)
deriving DecidableEq

inductive Failure where
  | frameTooShort (length minimum : Nat)
  | checksumMismatch (received calculated : UInt16)
  | unknownIdentity (identity : Identity)
  /-- A parameter head or its length field runs past the end of the payload. -/
  | entryHeadOutOfBounds (offset : Nat)
  /-- A parameter declares more data than the payload holds. -/
  | entryDataOutOfBounds (offset declared available : Nat)
  | unknownParameterType (code : UInt16)
  | valueWidth (name : String) (expected : Width) (actual : Nat)
  | invalidFlag (flag : UInt8)
  | malformedPiece (cause : PieceError)
  | pieceTooLong (length : Nat)
  | tooManyPieces (count : Nat)
  | invalidIdentity (cause : IdentityError)
  | invalidParameterCount (count maximum : Nat)
  | unknownParameterName (name : String)
  | dataLength (parameter : String) (expected actual : Nat)
  | controlBodyTooShort (needed actual : Nat)
  | unknownDevice (device : String)
  /-- The store holds no text under the identity resource that is an identity. -/
  | missingIdentity (device : String)
  | unknownCommand (resource : String)
  | transportClosed
  | invalidSettings (cause : SettingsError)
  | shutDown
  | unreadableFile
  | malformedJson
deriving DecidableEq

def IdentityError.message : IdentityError → String
  | .hex cause => s!"Invalid hexadecimal string: {cause.message}"
  | .wrongLength actual => s!"Invalid sensor identity: expected 6 bytes, got {actual}"

def PieceError.message : PieceError → String
  | .shortHeader actual => s!"header needs 4 bytes, got {actual}"
  | .shortData declared available => s!"declared {declared} bytes, {available} available"

def SettingsError.message : SettingsError → String
  | .zeroTimeout => "reassembly_timeout_secs must be greater than zero"
  | .zeroQueueDepth => "queue depths must be greater than zero"
  | .device name cause => s!"device {Text.quote name}: {cause.message}"

def Failure.message : Failure → String
  | .frameTooShort length minimum => s!"Frame too short: {length} bytes, need at least {minimum}"
  | .checksumMismatch received calculated =>
    s!"Invalid checksum: received 0x{Hex.word received}, calculated 0x{Hex.word calculated}"
  | .unknownIdentity identity => s!"Unknown sensor identity {identity.toHex}"
  | .entryHeadOutOfBounds offset => s!"Parameter header out of bounds at offset {offset}"
  | .entryDataOutOfBounds offset declared available =>
    s!"Parameter data out of bounds at offset {offset}: declared {declared}, " ++
      s!"available {available}"
  | .unknownParameterType code => s!"Unknown parameter type 0x{Hex.word code}"
  | .valueWidth name expected actual =>
    s!"Failed to decode {name}: expected {expected.text}, got {actual} bytes"
  | .invalidFlag flag => s!"Invalid request/set flag {flag}, must be 0 or 1"
  | .malformedPiece cause => s!"Malformed shard piece: {cause.message}"
  | .pieceTooLong length => s!"Shard piece length {length} exceeds maximum 65535"
  | .tooManyPieces count => s!"Shard piece count {count} exceeds maximum 128"
  | .invalidIdentity cause => cause.message
  | .invalidParameterCount count maximum =>
    s!"Invalid parameter count {count}, must be 1..={maximum}"
  | .unknownParameterName name => s!"Unknown parameter name {Text.quote name}"
  | .dataLength parameter expected actual =>
    s!"Parameter {Text.quote parameter} length mismatch: want {expected}, got {actual}"
  | .controlBodyTooShort needed actual =>
    s!"Control payload too short: need {needed}, got {actual}"
  | .unknownDevice device => s!"Unknown device {Text.quote device}"
  | .missingIdentity device => s!"Device {Text.quote device} has no stored sensor identity"
  | .unknownCommand resource => s!"Unknown command resource {Text.quote resource}"
  | .transportClosed => "Transport error: outbound receiver dropped"
  | .invalidSettings cause => s!"Configuration error: {cause.message}"
  | .shutDown => "Shard engine shut down"
  | .unreadableFile => "I/O error"
  | .malformedJson => "JSON error"

/-- Whether the failure discards a whole frame and not a single item of it. -/
def Failure.isFrameFatal : Failure → Bool
  | .frameTooShort .. | .checksumMismatch .. => true
  | _ => false

end SensorGateway
