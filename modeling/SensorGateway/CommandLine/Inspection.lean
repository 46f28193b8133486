import SensorGateway.CommandLine.Outcome
import SensorGateway.Envelope.Frame
import SensorGateway.Parameter.Reading
import SensorGateway.Text.Numeral

/-!
# Inspecting bytes and the catalogue

Three jobs answer questions about the format and need no gateway: the checksum of a byte string,
the contents of a frame as JSON, and the catalogue entry of a parameter that is given by type code
or by name.
-/

namespace SensorGateway.CommandLine

def enteredBytes (hex : String) : Except Complaint Bytes :=
  (Hex.decodeLenient hex).mapError fun error =>
    { message := "invalid hex input", cause := some error.message }

def showChecksum (hex : String) : Except Complaint (List String) := do
  let bytes ← enteredBytes hex
  pure [Hex.word (checksum bytes)]

def readingJson (reading : Reading) : Json :=
  .object
    [("name", .string reading.name),
      ("type_code", .ofNat reading.typeCode.toNat),
      ("unit", .string reading.unit),
      ("value", reading.value.toWideJson)]

/-- A frame as JSON, the fields by name, with whatever its payload says as a parameter list. -/
def frameJson (frame : Frame) : Json :=
  let list := ReadingList.decode frame.payload frame.paramCount.toNat
  .object
    [("checksum", .string (Hex.word frame.checksum)),
      ("errors", .array (list.errors.map fun failure => .string failure.message)),
      ("fragmented", .boolean frame.fragmented),
      ("identity", .string frame.identity.toHex),
      ("packet_type", .string frame.packetType.name),
      ("param_count", .ofNat frame.paramCount.toNat),
      ("parameters", .array (list.values.map readingJson))]

def showFrame (hex : String) : Except Complaint (List String) := do
  let raw ← enteredBytes hex
  match Frame.decode raw with
  | .ok frame => pure [(frameJson frame).pretty]
  | .error failure => throw { message := failure.message }

/-- The type code that a text spells: hexadecimal after a marker, else decimal, if it fits into two
bytes. -/
def typeCode? (key : String) : Option UInt16 :=
  let number? :=
    match key.toList with
    | '0' :: 'x' :: digits | '0' :: 'X' :: digits => Text.natural? 16 digits
    | digits => Text.natural? 10 digits
  (number?.filter fun code => code < 0x10000).map UInt16.ofNat

def parameterLine (typeCode : UInt16) (parameter : Parameter) : String :=
  let key := ParameterKey.ofTypeCode typeCode
  s!"0x{Hex.word typeCode} (feature {key.feature}, code {key.code}): " ++
    s!"{parameter.name} [{parameter.unit}] {parameter.kind.typeName}"

def showParameter (key : String) : Except Complaint (List String) :=
  match typeCode? key with
  | some typeCode =>
    match Catalogue.lookup? typeCode with
    | some parameter => .ok [parameterLine typeCode parameter]
    | none => .error { message := s!"no parameter with type code 0x{Hex.word typeCode}" }
  | none =>
    match Catalogue.named? key with
    | some parameter => .ok [parameterLine parameter.typeCode parameter]
    | none => .error { message := s!"no parameter named {Text.quote key}" }

end SensorGateway.CommandLine
