import SensorGateway.Bytes.Chunks
import SensorGateway.Decimal.Layout
import SensorGateway.Failure
import SensorGateway.Json.Basic

/-!
# Measured values

The data of a parameter is one number or a packed array of numbers, low byte first. A `ValueKind`
is the declared shape and fixes the admissible lengths; a `Value` is what the data says. Numbers in
floating point are kept as their words, so that every bit of the data survives. The gateway also
stores two shapes of its own, timestamps and identity texts.
-/

namespace SensorGateway

inductive ValueKind where
  | u8
  | u16
  | u32
  | i16
  | f32
  | u16Array
  | u32Array
  | i16Array
  | f32Array
deriving DecidableEq

inductive Value where
  | u8 (value : UInt8)
  | u16 (value : UInt16)
  | u32 (value : UInt32)
  | i16 (value : Int16)
  /-- A number in floating point, as its word. -/
  | f32 (word : UInt32)
  | u16Array (values : List UInt16)
  | u32Array (values : List UInt32)
  | i16Array (values : List Int16)
  | f32Array (words : List UInt32)
  | i64 (value : Int64)
  | text (value : String)
deriving DecidableEq

namespace ValueKind

def elementLength : ValueKind → Nat
  | u8 => 1
  | u16 | i16 | u16Array | i16Array => 2
  | u32 | f32 | u32Array | f32Array => 4

/-- Whether the data may hold any number of elements. -/
def isArray : ValueKind → Bool
  | u16Array | u32Array | i16Array | f32Array => true
  | _ => false

def fixedLength? (kind : ValueKind) : Option Nat :=
  if kind.isArray then none else some kind.elementLength

def typeName : ValueKind → String
  | u8 => "uint8"
  | u16 => "uint16"
  | u32 => "uint32"
  | i16 => "int16"
  | f32 => "float32"
  | u16Array => "uint16[]"
  | u32Array => "uint32[]"
  | i16Array => "int16[]"
  | f32Array => "float32[]"

def width (kind : ValueKind) : Width :=
  if kind.isArray then .multipleOf kind.elementLength else .exactly kind.elementLength

def admits (kind : ValueKind) (length : Nat) : Bool :=
  if kind.isArray then length % kind.elementLength == 0 else length == kind.elementLength

/-- The value that data of an admissible length says. -/
def read (kind : ValueKind) (data : Bytes) : Value :=
  let word16 := fun element : Bytes => UInt16.ofNat (Bytes.toNatLE element)
  let word32 := fun element : Bytes => UInt32.ofNat (Bytes.toNatLE element)
  match kind with
  | u8 => .u8 (UInt8.ofNat (Bytes.toNatLE data))
  | u16 => .u16 (word16 data)
  | u32 => .u32 (word32 data)
  | i16 => .i16 (word16 data).toInt16
  | f32 => .f32 (word32 data)
  | u16Array => .u16Array ((Bytes.chunks 2 data).map word16)
  | u32Array => .u32Array ((Bytes.chunks 4 data).map word32)
  | i16Array => .i16Array ((Bytes.chunks 2 data).map fun element => (word16 element).toInt16)
  | f32Array => .f32Array ((Bytes.chunks 4 data).map word32)

def decode (kind : ValueKind) (name : String) (data : Bytes) : Except Failure Value :=
  if kind.admits data.length then .ok (kind.read data)
  else .error (.valueWidth name kind.width data.length)

end ValueKind

namespace Value

/-- Numbers of their own are shown without an exponent. -/
def scalarStyle : Decimal.Style :=
  { positional := fun _ => true, wholeFraction := false, exponentPlus := false, tie := .up }

/-- Numbers inside an array show that they are no integers, and have an exponent below `0.0001` and
from `10 ^ 16` on. -/
def elementStyle : Decimal.Style :=
  { positional := fun point => -3 ≤ point && point ≤ 16
    wholeFraction := true
    exponentPlus := false
    tie := .up }

/-- Numbers of four bytes in JSON have an exponent below `10 ^ -6` and from `10 ^ 13` on. -/
def reportStyle : Decimal.Style :=
  { positional := fun point => -5 ≤ point && point ≤ 13
    wholeFraction := true
    exponentPlus := true
    tie := .even }

/-- Numbers of eight bytes in JSON have an exponent below `10 ^ -5` and from `10 ^ 16` on. -/
def wideReportStyle : Decimal.Style :=
  { positional := fun point => -4 ≤ point && point ≤ 16
    wholeFraction := true
    exponentPlus := true
    tie := .even }

def number (word : UInt32) : Decimal.Binary :=
  Decimal.binary32.decode word.toNat

def bracketed (items : List String) : String :=
  "[" ++ String.intercalate ", " items ++ "]"

def display : Value → String
  | u8 value => toString value
  | u16 value => toString value
  | u32 value => toString value
  | i16 value => toString value.toInt
  | f32 word => scalarStyle.text (number word)
  | u16Array values => bracketed (values.map toString)
  | u32Array values => bracketed (values.map toString)
  | i16Array values => bracketed (values.map fun value => toString value.toInt)
  | f32Array words => bracketed (words.map fun word => elementStyle.text (number word))
  | i64 value => toString value.toInt
  | text value => value

/-- A number in JSON, which has no spelling for the infinite and for what is no number. -/
def jsonNumber (style : Decimal.Style) : Decimal.Binary → Json
  | .finite negative magnitude => .number (style.finite negative magnitude)
  | _ => .null

/-- The value in JSON; `float` says how a floating-point word is spelled. -/
def toJsonWith (float : UInt32 → Json) : Value → Json
  | u8 value => .ofNat value.toNat
  | u16 value => .ofNat value.toNat
  | u32 value => .ofNat value.toNat
  | i16 value => .ofInt value.toInt
  | f32 word => float word
  | u16Array values => .array (values.map fun value => .ofNat value.toNat)
  | u32Array values => .array (values.map fun value => .ofNat value.toNat)
  | i16Array values => .array (values.map fun value => .ofInt value.toInt)
  | f32Array words => .array (words.map float)
  | i64 value => .ofInt value.toInt
  | text value => .string value

/-- The value in JSON, every number with the digits that identify it among four-byte words. -/
def toJson (value : Value) : Json :=
  value.toJsonWith fun word => jsonNumber reportStyle (number word)

/-- The value in JSON, every number with the digits that identify it among eight-byte words. -/
def toWideJson (value : Value) : Json :=
  value.toJsonWith fun word => jsonNumber wideReportStyle ((number word).withPrecision 53)

def text? : Value → Option String
  | text value => some value
  | _ => none

/-- The integer that a scalar stands for; numbers in floating point stand for none. -/
def integer? : Value → Option Int
  | u8 value => some value.toNat
  | u16 value => some value.toNat
  | u32 value => some value.toNat
  | i16 value => some value.toInt
  | i64 value => some value.toInt
  | _ => none

end Value

end SensorGateway
