import SensorGateway.Parameter.Catalogue

/-!
# Parameter entries

In a payload a parameter is an entry: a head of two bytes, low byte first, a length field whose form
the two low bits of the head announce, and the data. The four forms of the length field are nothing
at all for data of four bytes, one byte, two bytes low byte first, and three bytes high byte first.
`make` and `named` build only entries whose length field tells the truth; `encode` writes any
entry, and `read` takes one from the front of a byte string.
-/

namespace SensorGateway

inductive LengthFlag where
  /-- No length field; the data has four bytes. -/
  | implicit
  | oneByte
  | twoBytes
  | threeBytes
deriving DecidableEq

namespace LengthFlag

/-- The form that the two low bits of a head announce. -/
def ofBits (head : UInt16) : LengthFlag :=
  match head.toNat % 4 with
  | 0 => implicit
  | 1 => oneByte
  | 2 => twoBytes
  | _ => threeBytes

def bits : LengthFlag → UInt16
  | implicit => 0
  | oneByte => 1
  | twoBytes => 2
  | threeBytes => 3

def fieldLength : LengthFlag → Nat
  | implicit => 0
  | oneByte => 1
  | twoBytes => 2
  | threeBytes => 3

def maximum : LengthFlag → Nat
  | implicit => 4
  | oneByte => 0xFF
  | twoBytes => 0xFFFF
  | threeBytes => 0xFFFFFF

/-- The shortest form with a length field that can announce this length. -/
def smallestFor? (length : Nat) : Option LengthFlag :=
  [oneByte, twoBytes, threeBytes].find? fun flag => length ≤ flag.maximum

def encode (flag : LengthFlag) (length : Nat) : Bytes :=
  match flag with
  | implicit => []
  | oneByte => Bytes.ofNatLE 1 length
  | twoBytes => Bytes.ofNatLE 2 length
  | threeBytes => Bytes.ofNatBE 3 length

def decode (flag : LengthFlag) (field : Bytes) : Nat :=
  match flag with
  | implicit => 4
  | oneByte | twoBytes => Bytes.toNatLE field
  | threeBytes => Bytes.toNatBE field

def admits (flag : LengthFlag) (length : Nat) : Bool :=
  match flag with
  | implicit => length == 4
  | _ => length ≤ flag.maximum

end LengthFlag

/-- A parameter in a payload: its head, the length announced, and the data. -/
structure Entry where
  head : UInt16
  length : Nat
  data : Bytes
deriving DecidableEq

inductive EntryError where
  /-- The head or the length field is cut short. -/
  | head
  | data (declared available : Nat)
deriving DecidableEq

namespace Entry

/-- The type code in the fourteen high bits of the head. -/
def typeCode (entry : Entry) : UInt16 :=
  entry.head / 4

def flag (entry : Entry) : LengthFlag :=
  LengthFlag.ofBits entry.head

def encodedLength (entry : Entry) : Nat :=
  2 + entry.flag.fieldLength + entry.data.length

def encode (entry : Entry) : Bytes :=
  Bytes.ofNatLE 2 entry.head.toNat ++ entry.flag.encode entry.length ++ entry.data

/-- The entry of a type code with a given form of length field, if that form admits the data. -/
def make (typeCode : UInt16) (flag : LengthFlag) (data : Bytes) : Except Failure Entry :=
  let code := typeCode % 0x4000
  if flag.admits data.length then .ok ⟨code * 4 + flag.bits, data.length, data⟩
  else .error (.dataLength ("0x" ++ Hex.word code) flag.maximum data.length)

/-- The form of length field for data of a known parameter: none for scalars of four bytes, one
byte for narrower ones, and for arrays the shortest that is enough. -/
def flagFor (parameter : Parameter) (data : Bytes) : Except Failure LengthFlag :=
  match parameter.kind.fixedLength? with
  | some width =>
    if data.length ≠ width then .error (.dataLength parameter.name width data.length)
    else .ok (if width = 4 then .implicit else .oneByte)
  | none =>
    match parameter.decode data with
    | .error failure => .error failure
    | .ok _ =>
      match LengthFlag.smallestFor? data.length with
      | some flag => .ok flag
      | none =>
        .error (.dataLength parameter.name LengthFlag.threeBytes.maximum data.length)

def named (name : String) (data : Bytes) : Except Failure Entry :=
  match Catalogue.named? name with
  | none => .error (.unknownParameterName name)
  | some parameter =>
    match flagFor parameter data with
    | .error failure => .error failure
    | .ok flag => make parameter.typeCode flag data

/-- The entry at the front of a byte string, with the bytes after it. -/
def read (bytes : Bytes) : Except EntryError (Entry × Bytes) :=
  match bytes with
  | low :: high :: afterHead =>
    let head := UInt16.ofNat (Bytes.toNatLE [low, high])
    let flag := LengthFlag.ofBits head
    let field := afterHead.take flag.fieldLength
    let afterField := afterHead.drop flag.fieldLength
    if field.length < flag.fieldLength then .error .head
    else
      let length := flag.decode field
      if afterField.length < length then .error (.data length afterField.length)
      else .ok (⟨head, length, afterField.take length⟩, afterField.drop length)
  | _ => .error .head

end Entry

end SensorGateway
