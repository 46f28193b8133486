import SensorGateway.Bytes.Word

/-!
# Frame checksum

Every frame ends in a cyclic redundancy check over all bytes before it. The register holds sixteen
bits, starts full of ones and is shifted right; the generator is `x¹⁶ + x¹⁵ + x² + 1`, whose
reflected word is `0xA001`. One byte is eight single-bit steps, so the checksum is a fold whose
every step is linear in exclusive or, up to the initial value.
-/

namespace SensorGateway

/-- The reflected generator polynomial. -/
def Checksum.generator : UInt16 := 0xA001

/-- One division step: the bit that leaves the register decides whether the generator is added. -/
def Checksum.step (register : UInt16) : UInt16 :=
  if register % 2 = 1 then (register >>> 1) ^^^ generator else register >>> 1

def Checksum.absorb (register : UInt16) (byte : UInt8) : UInt16 :=
  let mixed := register ^^^ byte.toUInt16
  step (step (step (step (step (step (step (step mixed)))))))

def checksum (bytes : Bytes) : UInt16 :=
  bytes.foldl Checksum.absorb 0xFFFF

/-- The byte string followed by its checksum, high byte first. -/
def withChecksum (bytes : Bytes) : Bytes :=
  bytes ++ Bytes.ofNatBE 2 (checksum bytes).toNat

theorem checksum_append (left right : Bytes) :
    checksum (left ++ right) = right.foldl Checksum.absorb (checksum left) :=
  List.foldl_append ..

@[simp]
theorem length_withChecksum (bytes : Bytes) :
    (withChecksum bytes).length = bytes.length + 2 := by
  simp [withChecksum]

end SensorGateway
