import SensorGateway.Text.Visible

/-!
# Quoted text

An error text names a device, a parameter or a character exactly as it was received. Quoting makes
that unambiguous: the quoted form holds only visible characters, and a delimiter or backslash that
belongs to the text is escaped.
-/

namespace SensorGateway.Text

/-- A code point written as `\u{…}` in lower-case hexadecimal without leading zeros. -/
def codePointEscape (c : Char) : List Char :=
  ['\\', 'u', '{'] ++ Nat.toDigits 16 c.toNat ++ ['}']

def escapeChar (delimiter c : Char) : List Char :=
  if c = '\x00' then ['\\', '0']
  else if c = '\t' then ['\\', 't']
  else if c = '\r' then ['\\', 'r']
  else if c = '\n' then ['\\', 'n']
  else if c = '\\' || c = delimiter then ['\\', c]
  else if isJoining c || !isPrintable c then codePointEscape c
  else [c]

def quote (text : String) : String :=
  String.ofList (['"'] ++ text.toList.flatMap (escapeChar '"') ++ ['"'])

def quoteChar (c : Char) : String :=
  String.ofList (['\''] ++ escapeChar '\'' c ++ ['\''])

end SensorGateway.Text
