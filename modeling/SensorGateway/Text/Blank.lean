/-!
# Blank characters

Operators type identities and frames by hand, so every text field may be padded. What counts as
padding is fixed here once, by the Unicode property `White_Space`, and not by the ASCII subset that
`Char.isWhitespace` tests.
-/

namespace SensorGateway.Text

/-- The twenty-five characters with the Unicode property `White_Space`. -/
def isBlank (c : Char) : Bool :=
  let code := c.toNat
  (0x09 ≤ code && code ≤ 0x0D) || code == 0x20 || code == 0x85 || code == 0xA0 ||
    code == 0x1680 || (0x2000 ≤ code && code ≤ 0x200A) || code == 0x2028 || code == 0x2029 ||
    code == 0x202F || code == 0x205F || code == 0x3000

/-- The text without its blanks, wherever they stand. -/
def stripBlanks (text : List Char) : List Char :=
  text.filter fun c => !isBlank c

def trim (text : List Char) : List Char :=
  ((text.dropWhile isBlank).reverse.dropWhile isBlank).reverse

end SensorGateway.Text
