/-!
# The outcome of a job

A job prints lines for whoever asked and lines about what went wrong, and ends with an exit code:
0 if it has done what was asked, 1 if it could not, 2 if it was not asked properly. A complaint says
what could not be done and, under it, why.
-/

namespace SensorGateway.CommandLine

structure Complaint where
  message : String
  cause : Option String := none
deriving DecidableEq

def Complaint.lines (complaint : Complaint) : List String :=
  ("Error: " ++ complaint.message) ::
    match complaint.cause with
    | none => []
    | some cause => ["", "Caused by:", "    " ++ cause]

structure Printed where
  output : List String := []
  errors : List String := []
deriving DecidableEq

def Printed.append (first second : Printed) : Printed :=
  { output := first.output ++ second.output, errors := first.errors ++ second.errors }

instance : Append Printed := ⟨Printed.append⟩

structure Outcome where
  code : UInt8
  printed : Printed
deriving DecidableEq

namespace Outcome

def done (printed : Printed) : Outcome :=
  ⟨0, printed⟩

/-- The job could not be done, `printed` being what it printed before that was known. -/
def failed (printed : Printed) (complaint : Complaint) : Outcome :=
  ⟨1, printed ++ { errors := complaint.lines }⟩

def misused (usage : List String) : Outcome :=
  ⟨2, { errors := usage }⟩

/-- The outcome of a job that prints nothing unless it succeeds. -/
def ofResult : Except Complaint (List String) → Outcome
  | .ok output => done { output }
  | .error complaint => failed {} complaint

end Outcome

end SensorGateway.CommandLine
