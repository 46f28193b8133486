/-!
# JSON values and their text

Reports and decoded frames leave the gateway as JSON. A number is held as the text that stands for
it, because how many digits are shown is the decision of whoever measured it. `compact` writes no
white space at all, and `pretty` puts every element on a line of its own.
-/

namespace SensorGateway

/-- A value to be written; the fields of an object are written in the order given. -/
inductive Json where
  | null
  | boolean (value : Bool)
  | number (text : String)
  | string (text : String)
  | array (items : List Json)
  | object (fields : List (String × Json))

namespace Json

def ofNat (n : Nat) : Json :=
  .number (toString n)

def ofInt (n : Int) : Json :=
  .number (toString n)

def escapeChar (c : Char) : List Char :=
  if c = '"' || c = '\\' then ['\\', c]
  else if c = '\n' then ['\\', 'n']
  else if c = '\r' then ['\\', 'r']
  else if c = '\t' then ['\\', 't']
  else if c = '\x08' then ['\\', 'b']
  else if c = '\x0C' then ['\\', 'f']
  else if c.toNat < 0x20 then
    let digits := Nat.toDigits 16 c.toNat
    ['\\', 'u'] ++ List.replicate (4 - digits.length) '0' ++ digits
  else [c]

def quoted (text : String) : String :=
  String.ofList (['"'] ++ text.toList.flatMap escapeChar ++ ['"'])

mutual

def compact : Json → String
  | .null => "null"
  | .boolean value => if value then "true" else "false"
  | .number text => text
  | .string text => quoted text
  | .array items => "[" ++ String.intercalate "," (compactItems items) ++ "]"
  | .object fields => "\x7b" ++ String.intercalate "," (compactFields fields) ++ "\x7d"

def compactItems : List Json → List String
  | [] => []
  | item :: rest => compact item :: compactItems rest

def compactFields : List (String × Json) → List String
  | [] => []
  | (name, value) :: rest => (quoted name ++ ":" ++ compact value) :: compactFields rest

end

/-- The elements of a pretty array or object between its delimiters, `indent` being the blanks
before the closing one. -/
def prettyBlock (opening closing indent : String) (elements : List String) : String :=
  if elements.isEmpty then opening ++ closing
  else
    let lines := elements.map fun element => "\n" ++ indent ++ "  " ++ element
    opening ++ String.intercalate "," lines ++ "\n" ++ indent ++ closing

mutual

/-- The text of a value with every element on a line of its own, two blanks further in than the
value that holds it. -/
def prettyFrom (indent : String) : Json → String
  | .array items => prettyBlock "[" "]" indent (prettyItems (indent ++ "  ") items)
  | .object fields => prettyBlock "\x7b" "\x7d" indent (prettyFields (indent ++ "  ") fields)
  | .null => "null"
  | .boolean value => if value then "true" else "false"
  | .number text => text
  | .string text => quoted text

def prettyItems (indent : String) : List Json → List String
  | [] => []
  | item :: rest => prettyFrom indent item :: prettyItems indent rest

def prettyFields (indent : String) : List (String × Json) → List String
  | [] => []
  | (name, value) :: rest =>
    (quoted name ++ ": " ++ prettyFrom indent value) :: prettyFields indent rest

end

def pretty (value : Json) : String :=
  prettyFrom "" value

end Json

end SensorGateway
