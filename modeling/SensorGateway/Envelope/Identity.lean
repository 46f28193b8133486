import SensorGateway.Bytes.Hex

/-!
# Sensor identities

A sensor is known by six bytes, printed on its case as twelve hexadecimal digits. The canonical
text is upper-case; reading accepts either case and any blanks, so that two spellings of one
identity are the same identity from here on.
-/

namespace SensorGateway

structure Identity where
  bytes : Bytes
  length_bytes : bytes.length = 6
deriving DecidableEq

inductive IdentityError where
  | hex (cause : Hex.Error)
  | wrongLength (actual : Nat)
deriving DecidableEq

namespace Identity

def length : Nat := 6

def ofBytes (bytes : Bytes) : Except IdentityError Identity :=
  if h : bytes.length = 6 then .ok ⟨bytes, h⟩ else .error (.wrongLength bytes.length)

/-- Six zero bytes: the identity of no sensor. -/
def blank : Identity := ⟨List.replicate 6 0, rfl⟩

instance : Inhabited Identity := ⟨blank⟩

def toHex (identity : Identity) : String :=
  Hex.encode identity.bytes

/-- The identity that a text spells, blanks ignored. -/
def parse (text : String) : Except IdentityError Identity :=
  match Hex.decodeChars (Text.trim text.toList) with
  | .error cause => .error (.hex cause)
  | .ok bytes => ofBytes bytes

/-- Identities are ordered by their bytes from the first one on. -/
def order (left right : Identity) : Ordering :=
  List.compareLex compare left.bytes right.bytes

theorem ext_bytes {left right : Identity} (h : left.bytes = right.bytes) : left = right := by
  cases left
  cases right
  cases h
  rfl

theorem ofBytes_eq_ok_iff {bytes : Bytes} {identity : Identity} :
    ofBytes bytes = .ok identity ↔ identity.bytes = bytes := by
  constructor
  · intro h
    by_cases hlength : bytes.length = 6
    · rw [ofBytes, dif_pos hlength] at h
      cases h
      rfl
    · rw [ofBytes, dif_neg hlength] at h
      cases h
  · intro h
    have hlength : bytes.length = 6 := h ▸ identity.length_bytes
    rw [ofBytes, dif_pos hlength]
    exact congrArg Except.ok (ext_bytes h.symm)

end Identity

end SensorGateway
