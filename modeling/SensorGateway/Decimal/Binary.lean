/-!
# Binary numbers as they are stored

Measurements arrive as binary floating-point words. A finite word stands for
`significand · 2 ^ exponent`, and together with the distance to its lower neighbour these two
numbers decide which decimal texts read back as the same word.
-/

namespace SensorGateway.Decimal

/-- An interchange format: the widths of the exponent field and of the fraction field. -/
structure BinaryFormat where
  exponentBits : Nat
  fractionBits : Nat

def binary32 : BinaryFormat := ⟨8, 23⟩

structure Magnitude where
  significand : Nat
  exponent : Int
  /-- The neighbour below is only half as far away as the one above. -/
  narrowBelow : Bool
deriving DecidableEq

inductive Binary where
  | nan
  | infinite (negative : Bool)
  | finite (negative : Bool) (magnitude : Magnitude)
deriving DecidableEq

def BinaryFormat.decode (format : BinaryFormat) (word : Nat) : Binary :=
  let fraction := word % Nat.pow 2 format.fractionBits
  let biased := word / Nat.pow 2 format.fractionBits % Nat.pow 2 format.exponentBits
  let negative := word / Nat.pow 2 (format.fractionBits + format.exponentBits) % 2 == 1
  let scale : Int := (Nat.pow 2 (format.exponentBits - 1) : Int) - 1 + format.fractionBits
  if biased = Nat.pow 2 format.exponentBits - 1 then
    if fraction = 0 then .infinite negative else .nan
  else if biased = 0 then .finite negative ⟨fraction, 1 - scale, false⟩
  else
    .finite negative
      ⟨Nat.pow 2 format.fractionBits + fraction, biased - scale, fraction == 0 && biased != 1⟩

/-- The same number among those with `precision` significant bits, for a number that has no more
bits than that and is far from the least exponent. -/
def Magnitude.withPrecision (precision : Nat) (number : Magnitude) : Magnitude :=
  if number.significand = 0 then number
  else
    let shift := precision - 1 - Nat.log2 number.significand
    let significand := number.significand * Nat.pow 2 shift
    ⟨significand, number.exponent - shift, significand == Nat.pow 2 (precision - 1)⟩

def Binary.withPrecision (precision : Nat) : Binary → Binary
  | .finite negative magnitude => .finite negative (magnitude.withPrecision precision)
  | other => other

end SensorGateway.Decimal
