/-!
# Reading JSON text

Settings are read from JSON, and a text that is not exactly JSON is refused as a whole. Reading
keeps numbers as they are spelled and does not judge what a text says: a text whose escapes name
half of a surrogate pair has no characters, which matters only if somebody asks for them.
-/

namespace SensorGateway.Json

inductive Document where
  | null
  | bool (value : Bool)
  /-- A number as it is spelled. -/
  | number (spelling : List Char)
  /-- A text, or `none` if its escapes name half of a surrogate pair. -/
  | string (text : Option String)
  | array (items : List Document)
  /-- Fields in the order of the text, repetitions included. -/
  | object (fields : List (Option String × Document))

def isSpace (c : Char) : Bool :=
  c == ' ' || c == '\n' || c == '\t' || c == '\r'

def skipSpace (text : List Char) : List Char :=
  text.dropWhile isSpace

def digitRun (text : List Char) : List Char × List Char :=
  (text.takeWhile Char.isDigit, text.dropWhile Char.isDigit)

/-- The whole part of a number: no superfluous leading zero. -/
def wholePart? (text : List Char) : Option (List Char × List Char) :=
  match digitRun text with
  | ([], _) => none
  | ('0' :: _ :: _, _) => none
  | run => some run

def fractionPart? : List Char → Option (List Char × List Char)
  | '.' :: rest =>
    match digitRun rest with
    | ([], _) => none
    | (digits, rest) => some ('.' :: digits, rest)
  | text => some ([], text)

def exponentPart? (text : List Char) : Option (List Char × List Char) :=
  let signed := fun mark : Char => fun rest : List Char =>
    let (sign, rest) :=
      match rest with
      | '+' :: rest => (['+'], rest)
      | '-' :: rest => (['-'], rest)
      | rest => ([], rest)
    match digitRun rest with
    | ([], _) => none
    | (digits, rest) => some (mark :: sign ++ digits, rest)
  match text with
  | 'e' :: rest => signed 'e' rest
  | 'E' :: rest => signed 'E' rest
  | text => some ([], text)

def readNumber? (text : List Char) : Option (List Char × List Char) := do
  let (sign, rest) :=
    match text with
    | '-' :: rest => (['-'], rest)
    | rest => ([], rest)
  let (whole, rest) ← wholePart? rest
  let (fraction, rest) ← fractionPart? rest
  let (exponent, rest) ← exponentPart? rest
  pure (sign ++ whole ++ fraction ++ exponent, rest)

def hexValue? (c : Char) : Option Nat :=
  if '0' ≤ c && c ≤ '9' then some (c.toNat - 0x30)
  else if 'a' ≤ c && c ≤ 'f' then some (c.toNat - 0x57)
  else if 'A' ≤ c && c ≤ 'F' then some (c.toNat - 0x37)
  else none

def readUnit? : List Char → Option (Nat × List Char)
  | a :: b :: c :: d :: rest => do
    let a ← hexValue? a
    let b ← hexValue? b
    let c ← hexValue? c
    let d ← hexValue? d
    pure (((a * 16 + b) * 16 + c) * 16 + d, rest)
  | _ => none

def simpleEscape? : Char → Option Char
  | '"' => some '"'
  | '\\' => some '\\'
  | '/' => some '/'
  | 'b' => some '\x08'
  | 'f' => some '\x0C'
  | 'n' => some '\n'
  | 'r' => some '\r'
  | 't' => some '\t'
  | _ => none

/-- The units of the body of a text up to its closing quote, with what follows the quote. A
character that is not escaped counts as one unit here. -/
def readUnits? : Nat → List Char → Option (List Nat × List Char)
  | 0, _ => none
  | fuel + 1, text =>
    match text with
    | '"' :: rest => some ([], rest)
    | '\\' :: 'u' :: rest => do
      let (unit, rest) ← readUnit? rest
      let (units, rest) ← readUnits? fuel rest
      pure (unit :: units, rest)
    | '\\' :: c :: rest => do
      let c ← simpleEscape? c
      let (units, rest) ← readUnits? fuel rest
      pure (c.toNat :: units, rest)
    | '\\' :: [] => none
    | c :: rest =>
      if c.toNat < 0x20 then none
      else do
        let (units, rest) ← readUnits? fuel rest
        pure (c.toNat :: units, rest)
    | [] => none

/-- The characters of a list of units: a high surrogate joins the low one after it, and a surrogate
without its partner stands for nothing. -/
def charactersOf? : List Nat → Option (List Char)
  | [] => some []
  | [unit] => if 0xD800 ≤ unit && unit < 0xE000 then none else some [Char.ofNat unit]
  | unit :: next :: rest =>
    if 0xD800 ≤ unit && unit < 0xDC00 then
      if 0xDC00 ≤ next && next < 0xE000 then
        (charactersOf? rest).map
          (Char.ofNat (0x10000 + (unit - 0xD800) * 0x400 + (next - 0xDC00)) :: ·)
      else none
    else if 0xDC00 ≤ unit && unit < 0xE000 then none
    else (charactersOf? (next :: rest)).map (Char.ofNat unit :: ·)

/-- A text whose opening quote has been read. -/
def readText? (text : List Char) : Option (Option String × List Char) :=
  (readUnits? (text.length + 1) text).map fun (units, rest) =>
    ((charactersOf? units).map String.ofList, rest)

mutual

/-- A value at the start of a text without leading white space; the fuel bounds the depth of
reading and the length of the text is always enough. -/
def readValue? : Nat → List Char → Option (Document × List Char)
  | 0, _ => none
  | fuel + 1, text =>
    match text with
    | 'n' :: 'u' :: 'l' :: 'l' :: rest => some (.null, rest)
    | 't' :: 'r' :: 'u' :: 'e' :: rest => some (.bool true, rest)
    | 'f' :: 'a' :: 'l' :: 's' :: 'e' :: rest => some (.bool false, rest)
    | '"' :: rest => (readText? rest).map fun (content, rest) => (.string content, rest)
    | '[' :: rest =>
      match skipSpace rest with
      | ']' :: rest => some (.array [], rest)
      | rest => (readItems? fuel rest).map fun (items, rest) => (.array items, rest)
    | '\x7b' :: rest =>
      match skipSpace rest with
      | '\x7d' :: rest => some (.object [], rest)
      | rest => (readFields? fuel rest).map fun (fields, rest) => (.object fields, rest)
    | text => (readNumber? text).map fun (spelling, rest) => (.number spelling, rest)

/-- The items of an array, at least one, up to its closing bracket. -/
def readItems? : Nat → List Char → Option (List Document × List Char)
  | 0, _ => none
  | fuel + 1, text => do
    let (item, rest) ← readValue? fuel text
    match skipSpace rest with
    | ',' :: rest =>
      let (items, rest) ← readItems? fuel (skipSpace rest)
      pure (item :: items, rest)
    | ']' :: rest => pure ([item], rest)
    | _ => none

def readFields? : Nat → List Char → Option (List (Option String × Document) × List Char)
  | 0, _ => none
  | fuel + 1, text => do
    match text with
    | '"' :: rest =>
      let (name, rest) ← readText? rest
      match skipSpace rest with
      | ':' :: rest =>
        let (value, rest) ← readValue? fuel (skipSpace rest)
        match skipSpace rest with
        | ',' :: rest =>
          let (fields, rest) ← readFields? fuel (skipSpace rest)
          pure ((name, value) :: fields, rest)
        | '\x7d' :: rest => pure ([(name, value)], rest)
        | _ => none
      | _ => none
    | _ => none

end

/-- What a text says, if it is one JSON value with nothing but white space around it. -/
def Document.parse? (text : String) : Option Document := do
  let chars := text.toList
  let (document, rest) ← readValue? (2 * chars.length + 2) (skipSpace chars)
  if (skipSpace rest).isEmpty then pure document else none

def Document.text? : Document → Option String
  | .string text => text
  | _ => none

/-- The value of a number spelled with digits alone. -/
def Document.natural? : Document → Option Nat
  | .number spelling =>
    if spelling.all Char.isDigit then
      some (spelling.foldl (fun value c => value * 10 + (c.toNat - 0x30)) 0)
    else none
  | _ => none

end SensorGateway.Json
