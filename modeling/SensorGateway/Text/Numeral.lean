/-!
# Numerals

Type codes and dates are entered as numerals. A numeral is a row of digits, at least one, with at
most one sign before it; nothing else counts, not even blanks.
-/

namespace SensorGateway.Text

/-- The value of a digit; letters of either case stand for ten and more. -/
def numeralDigit? (base : Nat) (c : Char) : Option Nat :=
  let code := c.toNat
  let value :=
    if 0x30 ≤ code && code ≤ 0x39 then code - 0x30
    else if 0x41 ≤ code && code ≤ 0x5A then code - 0x37
    else if 0x61 ≤ code && code ≤ 0x7A then code - 0x57
    else base
  if value < base then some value else none

/-- The number that a row of digits stands for, the first digit weighing most. -/
def digitsValue? (base : Nat) (digits : List Char) : Option Nat :=
  if digits.isEmpty then none
  else
    digits.foldlM (fun value c => (numeralDigit? base c).map fun digit => value * base + digit) 0

/-- The number that a numeral without a minus sign stands for. -/
def natural? (base : Nat) : List Char → Option Nat
  | '+' :: digits => digitsValue? base digits
  | digits => digitsValue? base digits

def integer? : List Char → Option Int
  | '-' :: digits => (digitsValue? 10 digits).map fun value => -(value : Int)
  | numeral => (natural? 10 numeral).map Int.ofNat

end SensorGateway.Text
