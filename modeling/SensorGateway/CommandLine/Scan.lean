import SensorGateway.CommandLine.Grammar

/-!
# Reading a command line

Options may stand anywhere among the operands of their command. A long option is written `--name`,
its value either attached after an equals sign or as the next argument; options of one letter may
share one argument, and the last of them may have its value attached. What looks like an option is
never taken for a value, and `--` alone ends the options.

`Grammar.read` yields the commands found, the outermost first. It checks that each option is given
as often as it may be, that its value is acceptable, and that nothing needed is missing.
-/

namespace SensorGateway.CommandLine

structure Level where
  name : String
  /-- The options given, in order, each with its value; without one the value is empty. -/
  options : List (String × String) := []
  operands : List String := []
deriving DecidableEq

namespace Level

def has (level : Level) (name : String) : Bool :=
  level.options.any fun entry => entry.1 == name

def values (level : Level) (name : String) : List String :=
  (level.options.filter fun entry => entry.1 == name).map Prod.snd

/-- The value of an option that is given at most once. -/
def value? (level : Level) (name : String) : Option String :=
  (level.values name).head?

end Level

inductive Stop where
  | misuse
  /-- The description of a command is asked for, the path leading to it from the outermost one. -/
  | help (path : List Grammar)

inductive ArgumentForm where
  | terminator
  | long (name : String) (attached : Option String)
  | letters (letters : List Char)
  | plain (text : String)
deriving DecidableEq

/-- The form of an argument; a single hyphen is plain. -/
def ArgumentForm.ofText (text : String) : ArgumentForm :=
  match text.toList with
  | ['-', '-'] => .terminator
  | '-' :: '-' :: rest =>
    let name := String.ofList (rest.takeWhile (· ≠ '='))
    match rest.dropWhile (· ≠ '=') with
    | [] => .long name none
    | _ :: value => .long name (some (String.ofList value))
  | '-' :: letter :: rest => .letters (letter :: rest)
  | _ => .plain text

/-- The reading of one command: what is found so far, and the option whose value comes next. -/
structure Scan where
  level : Level
  waiting : Option OptionRule := none

namespace Scan

def record (scan : Scan) (rule : OptionRule) (value : String) : Except Stop Scan :=
  if scan.level.has rule.name && !rule.repeatable then .error .misuse
  else if !rule.accepts value then .error .misuse
  else
    let level := { scan.level with options := scan.level.options ++ [(rule.name, value)] }
    .ok { level, waiting := none }

/-- Adds an option that may have its value attached. -/
def take (scan : Scan) (rule : OptionRule) (attached : Option String) :
    Except Stop Scan :=
  match rule.placeholder, attached with
  | none, none => scan.record rule ""
  | none, some _ => .error .misuse
  | some _, some value => scan.record rule value
  | some _, none => .ok { scan with waiting := some rule }

def operand (scan : Scan) (grammar : Grammar) (text : String) : Except Stop Scan :=
  if scan.level.operands.length < grammar.operands.length then
    let level := { scan.level with operands := scan.level.operands ++ [text] }
    .ok { scan with level }
  else .error .misuse

/-- Adds the options in an argument of letters. -/
def takeLetters (path : List Grammar) (rules : List OptionRule) :
    List Char → Scan → Except Stop Scan
  | [], scan => .ok scan
  | letter :: rest, scan =>
    match rules.find? fun rule => rule.letter == some letter with
    | none => if letter = 'h' then .error (.help path) else .error .misuse
    | some rule =>
      match rule.placeholder, rest with
      | none, _ =>
        match scan.take rule none with
        | .error stop => .error stop
        | .ok scan => takeLetters path rules rest scan
      | some _, [] => scan.take rule none
      | some _, '=' :: value => scan.take rule (some (String.ofList value))
      | some _, value => scan.take rule (some (String.ofList value))

/-- The commands found once the arguments of a command have ended, `inner` being those of its
subcommand. -/
def finish (scan : Scan) (grammar : Grammar) (inner : List Level) :
    Except Stop (List Level) :=
  let complete :=
    scan.waiting.isNone && scan.level.operands.length == grammar.operands.length &&
      (grammar.options.all fun rule => !rule.needed || scan.level.has rule.name) &&
      (grammar.subcommands.isEmpty || !inner.isEmpty)
  if complete then .ok (scan.level :: inner) else .error .misuse

end Scan

namespace Grammar

/-- What asking for the description of a subcommand of a subcommand comes to. -/
def describe (grammar : Grammar) (path : List Grammar) : List String → Stop
  | [] => .help path
  | name :: rest =>
    match grammar.subcommand? name with
    | none => .misuse
    | some inner => describe inner (path ++ [inner]) rest

/-- Reads one argument that is no subcommand. -/
def step (grammar : Grammar) (path : List Grammar) (scan : Scan) (form : ArgumentForm) :
    Except Stop Scan :=
  match form with
  | .terminator => .error .misuse
  | .long name attached =>
    match grammar.options.find? fun rule => rule.name == name with
    | some rule => scan.take rule attached
    | none => if name == "help" && attached.isNone then .error (.help path) else .error .misuse
  | .letters letters => Scan.takeLetters path grammar.options letters scan
  | .plain text => scan.operand grammar text

def readFrom (grammar : Grammar) (path : List Grammar) (scan : Scan) :
    List String → Except Stop (List Level)
  | [] => scan.finish grammar []
  | argument :: rest =>
    match scan.waiting, ArgumentForm.ofText argument with
    | some rule, .plain value => do
      let scan ← scan.record rule value
      readFrom grammar path scan rest
    | some _, _ => .error .misuse
    | none, .terminator => do
      let scan ← rest.foldlM (fun scan text => scan.operand grammar text) scan
      scan.finish grammar []
    | none, form =>
      match grammar.subcommand? argument with
      | some inner =>
        if inner.name == describing.name then .error (describe grammar path rest)
        else do
          let levels ← readFrom inner (path ++ [inner]) { level := { name := inner.name } } rest
          scan.finish grammar levels
      | none => do
        let scan ← grammar.step path scan form
        readFrom grammar path scan rest

/-- The commands that the arguments spell, the outermost first. -/
def read (grammar : Grammar) (arguments : List String) : Except Stop (List Level) :=
  readFrom grammar [grammar] { level := { name := grammar.name } } arguments

end Grammar

end SensorGateway.CommandLine
