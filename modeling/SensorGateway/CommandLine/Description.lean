import SensorGateway.CommandLine.Grammar

/-!
# The description of a command

Whoever asks for help gets the usage line of a command and, under a heading each, its subcommands,
operands and options, with what they are about in a column of its own.
-/

namespace SensorGateway.CommandLine

def helpRule : OptionRule :=
  { name := "help", letter := some 'h', about := "Print help" }

namespace OptionRule

def longForm (rule : OptionRule) : String :=
  match rule.placeholder with
  | none => "--" ++ rule.name
  | some placeholder => s!"--{rule.name} <{placeholder}>"

/-- The forms of an option, the long ones aligned. -/
def forms (rule : OptionRule) : String :=
  match rule.letter with
  | none => "    " ++ rule.longForm
  | some letter => s!"-{letter}, {rule.longForm}"

end OptionRule

/-- Lines of two columns under a heading, after an empty line; nothing if there are none. -/
def titled (heading : String) (rows : List (String × String)) : List String :=
  if rows.isEmpty then []
  else
    let width := (rows.map fun row => row.1.length).foldl max 0
    let line := fun (row : String × String) =>
      if row.2.isEmpty then "  " ++ row.1
      else
        let gap := List.replicate (width + 2 - row.1.length) ' '
        "  " ++ row.1 ++ String.ofList gap ++ row.2
    ["", heading] ++ rows.map line

namespace Grammar

def neededOptions (grammar : Grammar) : List String :=
  (grammar.options.filter OptionRule.needed).map OptionRule.longForm

def usageTail (grammar : Grammar) : List String :=
  ["[OPTIONS]"] ++ grammar.neededOptions ++ grammar.operands.map (fun name => s!"<{name}>") ++
    if grammar.subcommands.isEmpty then [] else ["<COMMAND>"]

/-- The words of a usage line from a command on, the innermost command being shown. -/
def usageWords : List Grammar → List String
  | [] => []
  | [grammar] => grammar.name :: grammar.usageTail
  | grammar :: inner => grammar.name :: grammar.neededOptions ++ usageWords inner

def description (path : List Grammar) : List String :=
  match path.getLast? with
  | none => []
  | some grammar =>
    (if grammar.about.isEmpty then [] else [grammar.about, ""]) ++
      ["Usage: " ++ String.intercalate " " (usageWords path)] ++
      titled "Commands:" (grammar.allSubcommands.map fun inner => (inner.name, inner.about)) ++
      titled "Arguments:" (grammar.operands.map fun name => (s!"<{name}>", "")) ++
      titled "Options:"
        ((grammar.options ++ [helpRule]).map fun rule => (rule.forms, rule.about))

end Grammar

end SensorGateway.CommandLine
