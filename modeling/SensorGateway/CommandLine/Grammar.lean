/-!
# The grammar of a command line

A command takes options, operands and, in place of operands, a subcommand with a grammar of its
own. Every command also answers to the option `help`, and every command with subcommands to the
subcommand `help`.
-/

namespace SensorGateway.CommandLine

structure OptionRule where
  /-- The name after two hyphens. -/
  name : String
  /-- The letter after one hyphen. -/
  letter : Option Char := none
  /-- What stands for the value where the option is described; `none` if it takes no value. -/
  placeholder : Option String := none
  needed : Bool := false
  repeatable : Bool := false
  accepts : String → Bool := fun _ => true
  about : String := ""

structure Grammar where
  name : String
  about : String := ""
  options : List OptionRule := []
  /-- The names of the operands, all of them needed. -/
  operands : List String := []
  /-- One of these is needed if there are any. -/
  subcommands : List Grammar := []

namespace Grammar

/-- The subcommand that describes the others. -/
def describing : Grammar :=
  { name := "help", about := "Print this message or the help of the given subcommand(s)" }

/-- The subcommands of a command, the describing one included. -/
def allSubcommands (grammar : Grammar) : List Grammar :=
  if grammar.subcommands.isEmpty then [] else grammar.subcommands ++ [describing]

def subcommand? (grammar : Grammar) (name : String) : Option Grammar :=
  grammar.allSubcommands.find? fun candidate => candidate.name == name

end Grammar

end SensorGateway.CommandLine
