import SensorGateway.Control.Dispatch
import SensorGateway.Gateway.Station

/-!
# Processing frames

A frame from the line is checked, answered and routed. A business frame that is no piece is
answered with a data status before anything else happens to it; one that seems to be a business
frame but fails its checksum gets a negative status. What the frame says goes to the store and
into a report under the device that its sensor belongs to. Pieces are left to the shard engine, and
the frame rebuilt from them is routed without another answer.
-/

namespace SensorGateway

inductive Disposition where
  | rejected (failure : Failure)
  | unknownSensor (identity : Identity)
  /-- The frame is a piece, to be given to the shard engine. -/
  | fragment (frame : Frame)
  | handled
deriving DecidableEq

namespace Station

/-- Answers a business frame that is no piece. -/
def sendStatus (station : Station) (identity : Identity) (header : Header) (status : DataStatus) :
    Station :=
  if header.fragmented then station
  else
    match header.packetType.statusResponse? with
    | none => station
    | some response =>
      station.send identity
        (status.encode identity (Header.make header.paramCount false response))

def handleBusiness (station : Station) (device : String) (frame : Frame) : Station :=
  let readings := (ReadingList.decode frame.payload frame.paramCount.toNat).values
  if readings.isEmpty then station
  else
    let assignments := Reading.assignments readings
    { station with store := station.store.writeAll device assignments }.report device
      (ValueMap.ofAssignments assignments)

def handleControl (station : Station) (device : String) (frame : Frame) : Station :=
  match ControlMessage.ofFrame frame with
  | .error _ => station
  | .ok message =>
    let (store, result) :=
      Dispatch.run station.directory station.store message.controlByte message.body frame
    let station := { station with store }
    match result with
    | .error _ => station
    | .ok dispatch =>
      let station :=
        match dispatch.reported with
        | some values => if values.entries.isEmpty then station else station.report device values
        | none => station
      station.sendAll dispatch.outbound

def route (station : Station) (frame : Frame) : Station × Disposition :=
  match station.directory.device? frame.identity with
  | none => (station, .unknownSensor frame.identity)
  | some device =>
    let station := station.write device Store.lastDataResource (.i64 station.clock.nanoseconds)
    if frame.fragmented then (station, .fragment frame)
    else if frame.packetType.isBusiness then (station.handleBusiness device frame, .handled)
    else if frame.packetType.isControl then (station.handleControl device frame, .handled)
    else (station, .handled)

/-- Tells whoever seems to have sent a corrupted frame. -/
def rejectCorrupt (station : Station) (raw : Bytes) : Station :=
  match Frame.peek raw with
  | .error _ => station
  | .ok (identity, header) => station.sendStatus identity header .failure

def handleRaw (station : Station) (raw : Bytes) : Station × Disposition :=
  match Frame.decode raw with
  | .error failure =>
    let station :=
      match failure with
      | .checksumMismatch .. => station.rejectCorrupt raw
      | _ => station
    (station, .rejected failure)
  | .ok frame => (station.sendStatus frame.identity frame.header .success).route frame

def handleReassembled (station : Station) (frame : Frame) : Station × Disposition :=
  station.route frame

end Station

end SensorGateway
