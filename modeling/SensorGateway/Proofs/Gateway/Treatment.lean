import SensorGateway.Proofs.Control.Requests
import SensorGateway.Proofs.Gateway.Tasks

/-!
# What becomes of a frame

A frame comes from the line as bytes, or it has been rebuilt from pieces. Whoever sent a business
frame from the line gets a data status first (`receive_eq`). A frame of a known sensor then dates
its device, and after that there are not many things that can happen: they are the constructors of
`Treatment`, with the station that each of them leaves behind.
-/

namespace SensorGateway

theorem ControlType.ofCode?_eq_some_iff {code : UInt8} {type : ControlType} :
    ofCode? code = some type ↔ code = type.code := by
  constructor
  · intro h
    apply UInt8.toNat_inj.mp
    unfold ofCode? at h
    split at h <;> cases h <;> assumption
  · rintro rfl
    exact ofCode?_code type

theorem PacketType.isBusiness_of_isControl {packetType : PacketType}
    (h : packetType.isControl = true) : packetType.isBusiness = false := by
  cases packetType with
  | monitoring | alarm => cases h
  | _ => rfl

namespace ControlKey

theorem toByte_ofByte (byte : UInt8) : (ofByte byte).toByte = byte := by
  have hlt := byte.toNat_lt
  apply UInt8.toNat_inj.mp
  unfold ofByte toByte
  dsimp only
  rcases Nat.mod_two_eq_zero_or_one byte.toNat with heven | hodd
  · have hset : (byte % 2 == 1) = false := by
      rw [beq_eq_false_iff_ne, ne_eq, ← UInt8.toNat_inj]
      simp [heven]
    rw [hset]
    simp
    omega
  · have hset : (byte % 2 == 1) = true := by
      rw [beq_iff_eq, ← UInt8.toNat_inj]
      simp [hodd]
    rw [hset]
    simp
    omega

theorem handler?_eq_resetTrigger_iff {key : ControlKey} :
    key.handler? = some .resetTrigger ↔ key = ⟨ControlType.resetTrigger.code, false⟩ := by
  obtain ⟨code, set⟩ := key
  unfold handler?
  rw [mk.injEq, ← ControlType.ofCode?_eq_some_iff]
  cases ControlType.ofCode? code with
  | none => simp
  | some type => cases type <;> cases set <;> simp

end ControlKey

namespace Frame

/-- The parameter list in a frame; in a control frame it stands behind the control byte. -/
def parameters? (frame : Frame) : Option Bytes :=
  if frame.packetType.isBusiness then some frame.payload
  else if frame.packetType.isControl then
    match frame.payload with
    | byte :: body =>
      if (ControlKey.ofByte byte).handler? = some .commonParameters then some body else none
    | [] => none
  else none

structure AsksReset (frame : Frame) : Prop where
  whole : frame.fragmented = false
  isControl : frame.packetType.isControl = true
  exists_payload : ∃ body,
    frame.payload = (ControlKey.mk ControlType.resetTrigger.code false).toByte :: body

instance (raw : Bytes) : Decidable (IsSealed raw) :=
  decidable_of_iff
    (9 ≤ raw.length ∧ Bytes.toNatBE (raw.drop (raw.length - 2)) =
      (SensorGateway.checksum (raw.take (raw.length - 2))).toNat)
    ⟨fun h => ⟨h.1, h.2⟩, fun h => ⟨h.long, h.checksum_eq⟩⟩

end Frame

inductive Arrival where
  | raw (bytes : Bytes)
  | reassembled (frame : Frame)

namespace DataStatus

/-- The data status for the sender of a frame with this header, if it waits for one. -/
def reply? (status : DataStatus) (identity : Identity) (header : Header) :
    Option (Identity × Bytes) :=
  if header.fragmented then none
  else
    header.packetType.statusResponse?.map fun response =>
      (identity, status.encode identity (Header.make header.paramCount false response))

variable {status : DataStatus} {identity : Identity} {header : Header} {reply : Identity × Bytes}

theorem isSome_reply?_iff :
    (status.reply? identity header).isSome = true ↔
      header.fragmented = false ∧ header.packetType.isBusiness = true := by
  unfold reply?
  cases header.fragmented <;> cases header.packetType <;>
    simp [PacketType.statusResponse?, PacketType.isBusiness]

theorem of_mem_reply? (h : reply ∈ status.reply? identity header) :
    ∃ response, ((header.packetType = .monitoring ∧ response = .monitoringResponse) ∨
        (header.packetType = .alarm ∧ response = .alarmResponse)) ∧
      reply =
        (identity, status.encode identity (Header.make header.paramCount false response)) := by
  unfold reply? at h
  split_ifs at h
  · cases h
  · obtain ⟨response, hresponse, rfl⟩ := Option.map_eq_some_iff.mp h
    refine ⟨response, ?_, rfl⟩
    cases htype : header.packetType <;> simp_all [PacketType.statusResponse?]

end DataStatus

namespace Arrival

def frame : Arrival → Except Failure Frame
  | raw bytes => Frame.decode bytes
  | reassembled frame => .ok frame

/-- The data status that the sender waits for. The pieces of a rebuilt frame have been answered one
by one. -/
def status? : Arrival → Option (Identity × Bytes)
  | raw bytes =>
    match Frame.peek bytes with
    | .error _ => none
    | .ok (identity, header) =>
      (if Frame.IsSealed bytes then DataStatus.success else .failure).reply? identity header
  | reassembled _ => none

theorem status?_of_decode {bytes : Bytes} {frame : Frame} (h : Frame.decode bytes = .ok frame) :
    (raw bytes).status? = DataStatus.success.reply? frame.identity frame.header := by
  have hsealed : Frame.IsSealed bytes := Frame.exists_decode_iff.mp ⟨frame, h⟩
  obtain ⟨other, hother, _, hpeek⟩ := hsealed.exists_decode
  rw [h, Except.ok.injEq] at hother
  subst hother
  have hheader : frame.header = ⟨frame.paramCount % 16, frame.fragmented, frame.packetType⟩ := rfl
  simp only [status?, hpeek, hsealed, if_true, DataStatus.reply?, hheader,
    Header.make_paramCount_mod]

theorem exists_reply?_of_mem_status? {arrival : Arrival} {reply : Identity × Bytes}
    (h : reply ∈ arrival.status?) :
    ∃ status : DataStatus, ∃ identity header, reply ∈ status.reply? identity header := by
  cases arrival with
  | reassembled frame => cases h
  | raw bytes =>
    cases hpeek : Frame.peek bytes with
    | error failure =>
      simp only [status?, hpeek] at h
      cases h
    | ok envelope =>
      simp only [status?, hpeek] at h
      exact ⟨_, _, _, h⟩

end Arrival

namespace Station

variable {station : Station} {device : String} {frame : Frame}

def receive (station : Station) : Arrival → Station × Disposition
  | .raw bytes => station.handleRaw bytes
  | .reassembled frame => station.handleReassembled frame

/-- The station after the time of the last frame of a device has been written. -/
def dated (station : Station) (device : String) : Station :=
  station.write device Store.lastDataResource (.i64 station.clock.nanoseconds)

/-- The station after readings have been stored and reported. -/
def recorded (station : Station) (device : String) (readings : List Reading) : Station :=
  let assignments := Reading.assignments readings
  if readings.isEmpty then station
  else
    { station with store := station.store.writeAll device assignments }.report device
      (ValueMap.ofAssignments assignments)

/-! ### Control frames -/

theorem isEmpty_entries_ofAssignments (assignments : List (String × Value)) :
    (ValueMap.ofAssignments assignments).entries.isEmpty = assignments.isEmpty := by
  rcases List.eq_nil_or_concat' assignments with rfl | ⟨rest, last, rfl⟩
  · rfl
  · simp [ValueMap.ofAssignments, Keyed.insert]

/-- A parameter list in a control frame is treated like one in a business frame. -/
theorem handleControl_of_parameters {byte : UInt8} {body : Bytes}
    (hdevice : station.directory.device? frame.identity = some device)
    (hpayload : frame.payload = byte :: body)
    (hhandler : (ControlKey.ofByte byte).handler? = some .commonParameters) :
    station.handleControl device frame =
      station.recorded device (ReadingList.decode body frame.paramCount.toNat).values := by
  simp only [handleControl, ControlMessage.ofFrame, hpayload, ControlMessage.controlByte,
    ControlKey.toByte_ofByte, Dispatch.run, hhandler, hdevice, Dispatch.commonParameters,
    isEmpty_entries_ofAssignments]
  cases hreadings : (ReadingList.decode body frame.paramCount.toNat).values with
  | nil => rfl
  | cons => rfl

theorem handleControl_of_asksReset (hasks : frame.AsksReset)
    (hdevice : station.directory.device? frame.identity = some device) :
    station.handleControl device frame =
      station.sendAll ((station.store.identity? device).toList.map fun target =>
        (target, ControlRequest.resetBytes target)) := by
  obtain ⟨body, hpayload⟩ := hasks.exists_payload
  have hhandler := ControlKey.handler?_eq_resetTrigger_iff.mpr
    (ControlKey.ofByte_toByte .resetTrigger false)
  simp only [handleControl, ControlMessage.ofFrame, hpayload, ControlMessage.controlByte,
    ControlKey.toByte_ofByte, Dispatch.run, hhandler, hdevice, Dispatch.resetTrigger]
  cases station.store.identity? device with
  | none => rfl
  | some target => rfl

/-- What can happen to a frame at a station where it has dated its device. -/
inductive Treatment (station : Station) (device : String) (frame : Frame) :
    Station → Disposition → Prop where
  | piece (hpiece : frame.fragmented = true) :
      Treatment station device frame station (.fragment frame)
  | ignored : Treatment station device frame station .handled
  | recorded (list : Bytes) (hlist : frame.parameters? = some list) :
      Treatment station device frame
        (station.recorded device (ReadingList.decode list frame.paramCount.toNat).values) .handled
  | clock (seconds : UInt32) :
      Treatment station device frame
        (station.write device Store.timestampResource (.u32 seconds)) .handled
  | outcome (status : UInt8) :
      Treatment station device frame
        (station.write device Store.resetStatusResource (.u8 status)) .handled
  | reset (hasks : frame.AsksReset) (target : Identity)
      (htarget : station.store.identity? device = some target) :
      Treatment station device frame
        (station.send target (ControlRequest.resetBytes target)) .handled

theorem treatment_handleControl (hwhole : frame.fragmented = false)
    (hcontrol : frame.packetType.isControl = true)
    (hdevice : station.directory.device? frame.identity = some device) :
    Treatment station device frame (station.handleControl device frame) .handled := by
  have hbusiness := PacketType.isBusiness_of_isControl hcontrol
  cases hpayload : frame.payload with
  | nil =>
    have hnothing : station.handleControl device frame = station := by
      simp only [handleControl, ControlMessage.ofFrame, hpayload]
    rw [hnothing]
    exact .ignored
  | cons byte body =>
    cases hhandler : (ControlKey.ofByte byte).handler? with
    | none =>
      have hnothing : station.handleControl device frame = station := by
        simp only [handleControl, ControlMessage.ofFrame, hpayload, ControlMessage.controlByte,
          ControlKey.toByte_ofByte, Dispatch.run, hhandler]
        rfl
      rw [hnothing]
      exact .ignored
    | some handler =>
      cases handler with
      | commonParameters =>
        have hlist : frame.parameters? = some body := by
          simp [Frame.parameters?, hbusiness, hcontrol, hpayload, hhandler]
        rw [handleControl_of_parameters hdevice hpayload hhandler]
        exact .recorded body hlist
      | timestamp =>
        simp only [handleControl, ControlMessage.ofFrame, hpayload, ControlMessage.controlByte,
          ControlKey.toByte_ofByte, Dispatch.run, hhandler, hdevice, Dispatch.timestamp]
        split_ifs
        · exact .ignored
        · exact .clock _
      | resetAck =>
        simp only [handleControl, ControlMessage.ofFrame, hpayload, ControlMessage.controlByte,
          ControlKey.toByte_ofByte, Dispatch.run, hhandler, hdevice]
        cases body with
        | nil => exact .ignored
        | cons status => exact .outcome status
      | resetTrigger =>
        have hkey := ControlKey.handler?_eq_resetTrigger_iff.mp hhandler
        have hasks : frame.AsksReset := by
          refine ⟨hwhole, hcontrol, body, ?_⟩
          rw [hpayload, ← hkey, ControlKey.toByte_ofByte]
        rw [handleControl_of_asksReset hasks hdevice]
        cases htarget : station.store.identity? device with
        | none => exact .ignored
        | some target => exact .reset hasks target htarget

theorem treatment_route (hdevice : station.directory.device? frame.identity = some device) :
    Treatment (station.dated device) device frame (station.route frame).1
      (station.route frame).2 := by
  simp only [route, hdevice]
  split_ifs with hpiece hbusiness hcontrol
  · exact .piece hpiece
  · exact .recorded frame.payload (if_pos hbusiness)
  · exact treatment_handleControl (by simpa using hpiece) hcontrol hdevice
  · exact .ignored

/-! ### Arrivals -/

/-- What is left to be done when the sender has been answered. -/
def proceed (station : Station) (arrival : Arrival) : Station × Disposition :=
  match arrival.frame with
  | .error failure => (station, .rejected failure)
  | .ok frame => station.route frame

theorem sendStatus_eq (station : Station) (identity : Identity) (header : Header)
    (status : DataStatus) :
    station.sendStatus identity header status =
      station.sendAll (status.reply? identity header).toList := by
  unfold sendStatus DataStatus.reply?
  split_ifs
  · rfl
  · cases header.packetType.statusResponse? with
    | none => rfl
    | some response => rfl

/-- The sender is answered before anything else happens. -/
theorem receive_eq (station : Station) (arrival : Arrival) :
    station.receive arrival = (station.sendAll arrival.status?.toList).proceed arrival := by
  cases arrival with
  | reassembled frame => rfl
  | raw bytes =>
    simp only [receive, handleRaw, proceed, Arrival.frame]
    cases hdecode : Frame.decode bytes with
    | ok frame =>
      rw [Arrival.status?_of_decode hdecode, ← sendStatus_eq]
    | error failure =>
      rcases Frame.decode_eq_error_iff.mp hdecode with ⟨hshort, rfl⟩ | ⟨_, hnot, rfl⟩
      · have hpeek : Frame.peek bytes = .error (.frameTooShort bytes.length 9) := if_pos hshort
        simp only [Arrival.status?, hpeek]
        rfl
      · simp only [Arrival.status?, rejectCorrupt]
        cases Frame.peek bytes with
        | error => rfl
        | ok envelope => simp only [sendStatus_eq, hnot, if_false]

theorem receive_of_frame {arrival : Arrival} (hframe : arrival.frame = .ok frame) :
    station.receive arrival = (station.sendAll arrival.status?.toList).route frame := by
  rw [receive_eq, proceed, hframe]

/-! ### What is sent -/

theorem line_recorded (station : Station) (device : String) (readings : List Reading) :
    (station.recorded device readings).line = station.line := by
  unfold recorded
  split_ifs <;> rfl

theorem identity?_dated (station : Station) (device other : String) :
    (station.dated device).store.identity? other = station.store.identity? other := by
  have hresource : Store.identityResource ≠ Store.lastDataResource := by decide
  rw [dated, write, Store.identity?, Store.identity?, Store.read?_write,
    if_neg fun heq => hresource heq.2]

theorem line_route (hquiet : ¬ frame.AsksReset) : (station.route frame).1.line = station.line := by
  cases hdevice : station.directory.device? frame.identity with
  | none => simp only [route, hdevice]
  | some device =>
    have hcases := treatment_route hdevice
    revert hcases
    generalize station.route frame = routed
    obtain ⟨after, disposition⟩ := routed
    intro hcases
    cases hcases with
    | piece | ignored | clock | outcome => rfl
    | recorded => exact line_recorded ..
    | reset hasks => exact absurd hasks hquiet

theorem route_of_asksReset (hasks : frame.AsksReset)
    (hdevice : station.directory.device? frame.identity = some device) :
    station.route frame =
      ((station.dated device).sendAll ((station.store.identity? device).toList.map fun target =>
        (target, ControlRequest.resetBytes target)), .handled) := by
  have hbusiness := PacketType.isBusiness_of_isControl hasks.isControl
  have hknown : (station.dated device).directory.device? frame.identity = some device := hdevice
  have hrequest := handleControl_of_asksReset hasks hknown
  rw [identity?_dated] at hrequest
  simp only [route, hdevice, hasks.whole, hbusiness, hasks.isControl, Bool.false_eq_true, if_false,
    if_true]
  exact congrArg (·, Disposition.handled) hrequest

theorem exists_request_route (station : Station) (frame : Frame) :
    ∃ request : Option (Identity × Bytes), Sends station (station.route frame).1 request.toList ∧
      ∀ target bytes, (target, bytes) ∈ request ↔
        bytes = ControlRequest.resetBytes target ∧ frame.AsksReset ∧
          ∃ device, station.directory.device? frame.identity = some device ∧
            station.store.identity? device = some target := by
  by_cases hasks : frame.AsksReset
  · cases hdevice : station.directory.device? frame.identity with
    | none =>
      refine ⟨none, sends_nil (by simp only [route, hdevice]), ?_⟩
      simp
    | some device =>
      refine ⟨(station.store.identity? device).map fun target =>
        (target, ControlRequest.resetBytes target), ?_, ?_⟩
      · rw [route_of_asksReset hasks hdevice, Option.toList_map]
        exact (sends_sendAll (station.dated device) _).congr rfl rfl
      · intro target bytes
        rw [Option.mem_def, Option.map_eq_some_iff]
        constructor
        · rintro ⟨stored, hstored, heq⟩
          cases heq
          exact ⟨rfl, hasks, device, rfl, hstored⟩
        · rintro ⟨rfl, _, found, hfound, hstored⟩
          obtain rfl : device = found := Option.some.inj hfound
          exact ⟨target, hstored, rfl⟩
  · refine ⟨none, sends_nil (line_route hasks), ?_⟩
    simp [hasks]

/-- What an arrival sends is the data status, followed by a reset request if it asks for one. -/
theorem exists_request_receive (station : Station) (arrival : Arrival) :
    ∃ request : Option (Identity × Bytes),
      Sends station (station.receive arrival).1 (arrival.status?.toList ++ request.toList) ∧
        ∀ target bytes, (target, bytes) ∈ request ↔
          bytes = ControlRequest.resetBytes target ∧
            ∃ frame device, arrival.frame = .ok frame ∧ frame.AsksReset ∧
              station.directory.device? frame.identity = some device ∧
                station.store.identity? device = some target := by
  obtain ⟨line, hanswered⟩ := sendAll_eq station arrival.status?.toList
  have hstatus := sends_sendAll station arrival.status?.toList
  cases hframe : arrival.frame with
  | error failure =>
    refine ⟨none, ?_, by simp⟩
    rw [receive_eq, proceed, hframe]
    exact hstatus.trans (sends_nil rfl)
  | ok frame =>
    obtain ⟨request, hrequest, hmem⟩ :=
      exists_request_route (station.sendAll arrival.status?.toList) frame
    refine ⟨request, ?_, ?_⟩
    · rw [receive_of_frame hframe]
      exact hstatus.trans hrequest
    · intro target bytes
      rw [hmem, hanswered]
      simp

end Station

end SensorGateway
