import SensorGateway.Decimal.Binary

/-!
# The shortest decimal that reads back

A binary number is shown with the fewest significant digits that still read back as the same
number, and among texts of that length with the one nearest to it. Reading rounds to nearest and
takes the even significand on a tie, so a decimal reads back exactly when it lies between the
midpoints to the two neighbours, midpoints included for an even significand. All of this is
decided in exact arithmetic on natural numbers: on each decimal grid only the two points around the
number can qualify, and the grids are tried from the coarsest on.
-/

namespace SensorGateway.Decimal

/-- The decimal `0.d₁d₂… · 10 ^ point` with the significant digits `d₁d₂…`. -/
structure Digits where
  digits : List Char
  point : Int
deriving DecidableEq

/-- Which of two equally near decimals is taken. -/
inductive Tie where
  | even
  | up
deriving DecidableEq

/-- Numerator and denominator of `2 ^ binary / 10 ^ decimal`. -/
def gridRatio (binary decimal : Int) : Nat × Nat :=
  (Nat.pow 2 binary.toNat * Nat.pow 10 (-decimal).toNat,
    Nat.pow 2 (-binary).toNat * Nat.pow 10 decimal.toNat)

def leadingExponent (numerator denominator : Nat) : Int :=
  let guess : Int :=
    (Nat.toDigits 10 numerator).length - ((Nat.toDigits 10 denominator).length : Int)
  if denominator * Nat.pow 10 guess.toNat ≤ numerator * Nat.pow 10 (-guess).toNat then guess
  else guess - 1

/-- The point of the grid of multiples of `10 ^ decimal` that reads back as the number and is
nearest to it, as a multiple of the grid's unit. -/
def gridPoint? (tie : Tie) (number : Magnitude) (decimal : Int) : Option Nat :=
  -- In quarters of the significand's unit, the midpoints to both neighbours are whole.
  let (numerator, denominator) := gridRatio (number.exponent - 2) decimal
  let value := 4 * number.significand * numerator
  let low := (4 * number.significand - if number.narrowBelow then 1 else 2) * numerator
  let high := (4 * number.significand + 2) * numerator
  let closed := number.significand % 2 == 0
  let readsBack := fun point : Nat =>
    let scaled := point * denominator
    if closed then low ≤ scaled && scaled ≤ high else low < scaled && scaled < high
  let below := value / denominator
  let above := below + 1
  let belowGap := value - below * denominator
  let aboveGap := above * denominator - value
  match readsBack below, readsBack above with
  | false, false => none
  | true, false => some below
  | false, true => some above
  | true, true =>
    if belowGap < aboveGap then some below
    else if aboveGap < belowGap then some above
    else
      match tie with
      | .up => some above
      | .even => some (if below % 2 = 0 then below else above)

def Digits.ofGridPoint (point : Nat) (decimal : Int) : Digits :=
  let written := Nat.toDigits 10 point
  ⟨(written.reverse.dropWhile (· == '0')).reverse, decimal + written.length⟩

/-- The shortest decimal that reads back as the number; no digits for zero. Seventeen digits are
enough for every number of at most fifty-three bits. -/
def Magnitude.shortest (tie : Tie) (number : Magnitude) : Digits :=
  if number.significand = 0 then ⟨[], 0⟩
  else
    let (numerator, denominator) := gridRatio number.exponent 0
    let leading := leadingExponent (number.significand * numerator) denominator
    let attempt := fun count : Nat =>
      let decimal := leading - count
      (gridPoint? tie number decimal).map fun point => Digits.ofGridPoint point decimal
    ((List.range 17).findSome? attempt).getD ⟨[], 0⟩

end SensorGateway.Decimal
