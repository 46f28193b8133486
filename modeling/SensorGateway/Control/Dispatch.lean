import SensorGateway.Control.Request
import SensorGateway.Device.Directory
import SensorGateway.Device.Store
import SensorGateway.Parameter.Reading

/-!
# Dispatching control replies

A reply is handled by what its control byte says. A reply that nobody handles is dropped; one that
a handler cannot use is refused before anything has been written. Parameter lists go to the store
and into a report, clock and reset outcome to the store alone, and a sensor that asks to be reset
gets a reset request under the identity stored for its device.
-/

namespace SensorGateway

/-- What a reply leads to, beside its writes. -/
structure Dispatch where
  /-- The values to report, if the reply was a parameter list. -/
  reported : Option ValueMap
  outbound : List (Identity × Bytes)
deriving DecidableEq

def Reading.assignments (readings : List Reading) : List (String × Value) :=
  readings.map fun reading => (reading.name, reading.value)

/-- The last value of every name. -/
def ValueMap.ofAssignments (assignments : List (String × Value)) : ValueMap :=
  assignments.foldl (fun values entry => values.insert entry.1 entry.2) Keyed.empty

namespace Dispatch

def nothing : Dispatch := ⟨none, []⟩

def commonParameters (store : Store) (device : String) (body : Bytes) (count : UInt8) :
    Store × Dispatch :=
  let assignments := Reading.assignments (ReadingList.decode body count.toNat).values
  (store.writeAll device assignments, ⟨some (ValueMap.ofAssignments assignments), []⟩)

def timestamp (store : Store) (device : String) (body : Bytes) :
    Store × Except Failure Dispatch :=
  if body.length < 4 then (store, .error (.controlBodyTooShort 4 body.length))
  else
    let seconds := UInt32.ofNat (Bytes.toNatLE (body.take 4))
    (store.write device Store.timestampResource (.u32 seconds), .ok nothing)

def resetAck (store : Store) (device : String) (body : Bytes) : Store × Except Failure Dispatch :=
  match body with
  | [] => (store, .error (.controlBodyTooShort 1 0))
  | status :: _ => (store.write device Store.resetStatusResource (.u8 status), .ok nothing)

def resetTrigger (store : Store) (device : String) : Store × Except Failure Dispatch :=
  match store.identity? device with
  | none => (store, .error (.missingIdentity device))
  | some target => (store, .ok ⟨none, [(target, ControlRequest.resetBytes target)]⟩)

def run (directory : Directory) (store : Store) (controlByte : UInt8) (body : Bytes)
    (frame : Frame) : Store × Except Failure Dispatch :=
  match (ControlKey.ofByte controlByte).handler? with
  | none => (store, .ok nothing)
  | some handler =>
    match directory.device? frame.identity with
    | none => (store, .error (.unknownIdentity frame.identity))
    | some device =>
      match handler with
      | .commonParameters =>
        let (store, dispatch) := commonParameters store device body frame.paramCount
        (store, .ok dispatch)
      | .timestamp => timestamp store device body
      | .resetAck => resetAck store device body
      | .resetTrigger => resetTrigger store device

end Dispatch

end SensorGateway
