import SensorGateway.Bytes.Word
import SensorGateway.Text.Blank
import SensorGateway.Text.Quoted

/-!
# Hexadecimal text

Identities and frames are shown and entered as hexadecimal digits, two for a byte, high half first.
`encode` writes upper-case digits without separators and is the canonical form. `decode` takes
either case and ignores blanks; it refuses a text that is empty, that has an odd length, or that
holds anything but digits, in this order. `decodeLenient` also takes separators and radix markers.
-/

namespace SensorGateway.Hex

inductive Error where
  /-- Nothing but blanks. -/
  | empty
  /-- The text without blanks has an odd number of bytes. -/
  | oddLength (length : Nat)
  /-- A byte that is no digit, and how many digits stand before it. -/
  | badDigit (byte : UInt8) (position : Nat)
deriving DecidableEq

/-- The wording of an error; the byte is shown as the Latin-1 character of its value. -/
def Error.message : Error → String
  | .empty => "Empty hex string"
  | .oddLength length => s!"Odd number of hex characters: {length}"
  | .badDigit byte position =>
    "Hex decoding error: Invalid character " ++ Text.quoteChar (Char.ofNat byte.toNat) ++
      s!" at position {position}"

def digitChar (value : UInt8) : Char :=
  if value < 10 then Char.ofNat (0x30 + value.toNat) else Char.ofNat (0x37 + value.toNat)

def digitValue? (c : Char) : Option UInt8 :=
  let code := c.toNat
  if 0x30 ≤ code && code ≤ 0x39 then some (UInt8.ofNat (code - 0x30))
  else if 0x41 ≤ code && code ≤ 0x46 then some (UInt8.ofNat (code - 0x37))
  else if 0x61 ≤ code && code ≤ 0x66 then some (UInt8.ofNat (code - 0x57))
  else none

def isDigit (c : Char) : Bool :=
  (digitValue? c).isSome

def byteDigits (byte : UInt8) : List Char :=
  [digitChar (byte / 16), digitChar (byte % 16)]

def digits (bytes : Bytes) : List Char :=
  bytes.flatMap byteDigits

/-- The canonical text of a byte string: upper-case digits and nothing else. -/
def encode (bytes : Bytes) : String :=
  String.ofList (digits bytes)

def encodeSpaced (bytes : Bytes) : String :=
  String.intercalate " " (bytes.map fun byte => String.ofList (byteDigits byte))

def word (value : UInt16) : String :=
  encode (Bytes.ofNatBE 2 value.toNat)

/-- The bytes that pairs of digit values stand for; a value without a partner stands for none. -/
def pairs : List UInt8 → Bytes
  | high :: low :: rest => (high * 16 + low) :: pairs rest
  | _ => []

def utf8Length : List Char → Nat
  | [] => 0
  | c :: rest => c.utf8Size + utf8Length rest

def leadingByte (c : Char) : UInt8 :=
  ((String.utf8EncodeChar c).head?).getD 0

def decodeDigits (text : List Char) : Except Error Bytes :=
  if text.isEmpty then .error .empty
  else if utf8Length text % 2 = 1 then .error (.oddLength (utf8Length text))
  else
    match text.dropWhile isDigit with
    | c :: _ => .error (.badDigit (leadingByte c) (text.takeWhile isDigit).length)
    | [] => .ok (pairs (text.filterMap digitValue?))

def decodeChars (text : List Char) : Except Error Bytes :=
  decodeDigits (Text.stripBlanks text)

/-- The bytes of a text of digits, blanks ignored. -/
def decode (text : String) : Except Error Bytes :=
  decodeChars text.toList

/-- A blank or a comma ends a token of lenient text. -/
def isSeparator (c : Char) : Bool :=
  Text.isBlank c || c == ','

/-- The tokens of a text, those between neighbouring separators being empty. -/
def tokens (text : List Char) : List (List Char) :=
  text.foldr
    (fun c read =>
      match read with
      | token :: others => if isSeparator c then [] :: token :: others else (c :: token) :: others
      | [] => [[c]])
    [[]]

/-- The token without the radix markers it begins with, a marker being a zero and the letter. -/
def dropMarkers (letter : Char) : List Char → List Char
  | '0' :: c :: rest => if c = letter then dropMarkers letter rest else '0' :: c :: rest
  | token => token

/-- The digits that count in lenient text: of each token those after its leading markers. -/
def lenientDigits (text : List Char) : List Char :=
  (tokens text).flatMap fun token => (dropMarkers 'X' (dropMarkers 'x' token)).filter isDigit

/-- The bytes of a text whose digits may carry markers and be separated by anything. -/
def decodeLenient (text : String) : Except Error Bytes :=
  decodeChars (lenientDigits text.toList)

end SensorGateway.Hex
