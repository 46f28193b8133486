import SensorGateway.Bytes.Chunks
import SensorGateway.Bytes.Hex

/-!
# Byte dumps

The traffic log shows a frame as a table. Each line has the offset of its first byte, the bytes in
groups of two, and a column of the characters that are printable in ASCII; a short last line is
padded so that the columns stay aligned.
-/

namespace SensorGateway.Bytes

/-- The offset in lower-case hexadecimal, at least four digits long. -/
def offsetText (offset : Nat) : String :=
  let written := Nat.toDigits 16 offset
  String.ofList (List.replicate (4 - written.length) '0' ++ written)

def groupedDigits : Bytes → List Char
  | first :: second :: rest =>
    Hex.byteDigits first ++ Hex.byteDigits second ++ ' ' :: groupedDigits rest
  | [last] => Hex.byteDigits last
  | [] => []

def columnChar (byte : UInt8) : Char :=
  if 0x20 ≤ byte && byte ≤ 0x7E then Char.ofNat byte.toNat else '.'

def digitsWidth (count : Nat) : Nat :=
  count * 2 + count / 2

def dumpLine (perLine offset : Nat) (line : Bytes) : String :=
  let padding := List.replicate (digitsWidth perLine - digitsWidth line.length) ' '
  offsetText offset ++ ": " ++
    String.ofList (groupedDigits line ++ padding ++ ['|'] ++ line.map columnChar ++ ['|'])

def dumpLines (perLine : Nat) : Nat → List Bytes → List String
  | _, [] => []
  | offset, line :: rest =>
    dumpLine perLine offset line :: dumpLines perLine (offset + perLine) rest

/-- The dump of a byte string with `perLine` bytes on a line; nothing when that is zero. -/
def dump (bytes : Bytes) (perLine : Nat) : String :=
  if perLine = 0 then ""
  else String.intercalate "\n" (dumpLines perLine 0 (chunks perLine bytes))

def trafficEntry (direction : String) (bytes : Bytes) : String :=
  s!"{direction} {bytes.length} bytes\n{dump bytes 16}"

/-- The entries that the traffic log gets; it is kept only while debugging. -/
def traffic (debugging : Bool) (direction : String) (bytes : Bytes) : List String :=
  if debugging then [trafficEntry direction bytes] else []

end SensorGateway.Bytes
