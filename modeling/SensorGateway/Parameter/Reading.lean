import SensorGateway.Parameter.Reader

/-!
# Readings

A reading is a known parameter with the value its data says. Decoding a parameter list keeps every
reading and every failure; an entry of an unknown type, or with data of the wrong length, costs
only itself.
-/

namespace SensorGateway

structure Reading where
  typeCode : UInt16
  name : String
  unit : String
  value : Value
deriving DecidableEq

structure ReadingList where
  values : List Reading
  errors : List Failure
deriving DecidableEq

namespace Reading

def ofEntry (entry : Entry) : Except Failure Reading :=
  match Catalogue.lookup? entry.typeCode with
  | none => .error (.unknownParameterType entry.typeCode)
  | some parameter =>
    match parameter.decode entry.data with
    | .error failure => .error failure
    | .ok value => .ok ⟨entry.typeCode, parameter.name, parameter.unit, value⟩

def ofItem : Except Failure Entry → Except Failure Reading
  | .error failure => .error failure
  | .ok entry => ofEntry entry

end Reading

namespace ReadingList

/-- The successes and the failures of a list, each in order. -/
def ofResults (results : List (Except Failure Reading)) : ReadingList :=
  { values := results.filterMap fun
      | .ok reading => some reading
      | .error _ => none
    errors := results.filterMap fun
      | .ok _ => none
      | .error failure => some failure }

def decode (payload : Bytes) (count : Nat) : ReadingList :=
  ofResults ((EntryReader.start payload count).items.map Reading.ofItem)

end ReadingList

end SensorGateway
