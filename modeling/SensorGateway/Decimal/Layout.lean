import SensorGateway.Decimal.Shortest

/-!
# Laying out a decimal

The digits of a number are shown either positionally or with an exponent. A `Style` holds every
decision that a text format makes about this; the layout itself knows no format.
-/

namespace SensorGateway.Decimal

structure Style where
  /-- Whether a number whose first digit stands at this position relative to the point is written
  without an exponent; position one is just before the point. -/
  positional : Int → Bool
  /-- Whole numbers written positionally end in `.0`. -/
  wholeFraction : Bool
  /-- Exponents that are not negative carry a plus sign. -/
  exponentPlus : Bool
  tie : Tie

def positionalText (wholeFraction : Bool) (number : Digits) : List Char :=
  let count := number.digits.length
  if number.point ≤ 0 then
    if number.digits.isEmpty then (if wholeFraction then ['0', '.', '0'] else ['0'])
    else ['0', '.'] ++ List.replicate (-number.point).toNat '0' ++ number.digits
  else
    let point := number.point.toNat
    if count ≤ point then
      number.digits ++ List.replicate (point - count) '0' ++
        (if wholeFraction then ['.', '0'] else [])
    else number.digits.take point ++ '.' :: number.digits.drop point

def exponentText (exponentPlus : Bool) (number : Digits) : List Char :=
  let exponent := number.point - 1
  let mantissa :=
    match number.digits with
    | [] => ['0']
    | [digit] => [digit]
    | digit :: rest => digit :: '.' :: rest
  let sign := if exponent < 0 then ['-'] else if exponentPlus then ['+'] else []
  mantissa ++ 'e' :: sign ++ Nat.toDigits 10 exponent.natAbs

def Style.finite (style : Style) (negative : Bool) (magnitude : Magnitude) : String :=
  let number := magnitude.shortest style.tie
  let sign := if negative then ['-'] else []
  let body :=
    if number.digits.isEmpty || style.positional number.point then
      positionalText style.wholeFraction number
    else exponentText style.exponentPlus number
  String.ofList (sign ++ body)

def Style.text (style : Style) : Binary → String
  | .nan => "NaN"
  | .infinite negative => if negative then "-inf" else "inf"
  | .finite negative magnitude => style.finite negative magnitude

end SensorGateway.Decimal
