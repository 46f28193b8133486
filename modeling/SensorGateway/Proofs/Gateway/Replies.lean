import SensorGateway.Proofs.Gateway.Treatment

/-!
# Who gets a data status

A sensor that has sent a business frame waits for a data status, and it gets one even if the frame
is corrupt or nobody knows the sensor: all that counts is what the bytes seem to be
(`AwaitsStatus`). The status goes out before anything else happens. Beside it nothing is ever sent
but a reset request, where a sensor has asked for one, and a status that comes back is not answered,
so that no two stations can keep each other busy.
-/

namespace SensorGateway

namespace Frame

/-- The bytes seem to be a whole business frame, whatever their checksum. -/
def AwaitsStatus (raw : Bytes) : Prop :=
  9 ≤ raw.length ∧ ∃ byte, raw[6]? = some byte ∧ (Header.ofByte byte).fragmented = false ∧
    (Header.ofByte byte).packetType.isBusiness = true

/-- The frame in a reply tells whoever seems to have sent the bytes how they have arrived. -/
structure IsStatusFor (raw : Bytes) (reply : Identity × Bytes) : Prop where
  target_eq : reply.1.bytes = raw.take 6
  exists_decode : ∃ byte response, raw[6]? = some byte ∧
    (((Header.ofByte byte).packetType = .monitoring ∧ response = .monitoringResponse) ∨
      ((Header.ofByte byte).packetType = .alarm ∧ response = .alarmResponse)) ∧
    decode reply.2 = .ok (make reply.1 ⟨(Header.ofByte byte).paramCount, false, response⟩
      [if IsSealed raw then 0xFF else 0x00])

variable {raw : Bytes}

theorem peek_of_long (hlong : 9 ≤ raw.length) :
    ∃ identity byte, peek raw = .ok (identity, Header.ofByte byte) ∧
      identity.bytes = raw.take 6 ∧ raw[6]? = some byte := by
  have hbody : 7 ≤ (raw.take (raw.length - 2)).length := by
    rw [List.length_take]
    omega
  obtain ⟨identity, byte, payload, hcovered⟩ := exists_eq_covered hbody
  refine ⟨identity, byte, ?_, ?_, ?_⟩
  · unfold peek minimumLength
    rw [if_neg (by omega), hcovered, split?_covered]
    simp only [Header.toByte_ofByte]
  · calc
      identity.bytes = (raw.take (raw.length - 2)).take 6 := by
        rw [hcovered, covered, List.take_left' identity.length_bytes]
      _ = raw.take 6 := by rw [List.take_take, Nat.min_eq_left (by omega)]
  · calc
      raw[6]? = (raw.take (raw.length - 2))[6]? := by
        rw [List.getElem?_take_of_lt (by omega)]
      _ = some (Header.ofByte byte).toByte := by
        rw [hcovered, covered, List.getElem?_append_right (Nat.le_of_eq identity.length_bytes),
          identity.length_bytes]
        rfl
      _ = some byte := by rw [Header.toByte_ofByte]

end Frame

namespace DataStatus

/-- What a data status is in turn taken for: a whole frame of a type that nobody waits upon. -/
theorem decode_encode (status : DataStatus) (identity : Identity) (byte : UInt8)
    (response : PacketType) :
    Frame.decode (status.encode identity
        (Header.make (Header.ofByte byte).paramCount false response)) =
      .ok
        (Frame.make identity ⟨(Header.ofByte byte).paramCount, false, response⟩ [status.byte]) := by
  have hcount : (Header.ofByte byte).paramCount % 16 = (Header.ofByte byte).paramCount :=
    congrArg Header.paramCount (Header.make_ofByte byte)
  have hheader : Header.make (Header.ofByte byte).paramCount false response =
      ⟨(Header.ofByte byte).paramCount, false, response⟩ := by
    unfold Header.make
    rw [hcount]
  rw [← hheader]
  exact Frame.decode_encode_make ..

end DataStatus

namespace Arrival

variable {bytes : Bytes} {reply : Identity × Bytes}

theorem isSome_status?_iff :
    (raw bytes).status?.isSome = true ↔ Frame.AwaitsStatus bytes := by
  unfold Frame.AwaitsStatus
  rcases Nat.lt_or_ge bytes.length 9 with hshort | hlong
  · have hpeek : Frame.peek bytes = .error (.frameTooShort bytes.length 9) := if_pos hshort
    simp only [status?, hpeek]
    simp [Nat.not_le.mpr hshort]
  · obtain ⟨identity, byte, hpeek, -, hbyte⟩ := Frame.peek_of_long hlong
    simp only [status?, hpeek, DataStatus.isSome_reply?_iff, hbyte, hlong, Option.some.injEq,
      exists_eq_left', true_and]

theorem isStatusFor_of_mem_status? (h : reply ∈ (raw bytes).status?) :
    Frame.IsStatusFor bytes reply := by
  have hlong : 9 ≤ bytes.length := (isSome_status?_iff.mp (Option.isSome_of_mem h)).1
  obtain ⟨identity, byte, hpeek, htarget, hbyte⟩ := Frame.peek_of_long hlong
  simp only [status?, hpeek] at h
  obtain ⟨response, hresponse, rfl⟩ := DataStatus.of_mem_reply? h
  refine ⟨htarget, byte, response, hbyte, hresponse, ?_⟩
  rw [DataStatus.decode_encode]
  split_ifs <;> rfl

end Arrival

namespace Station

/-- What is sent when bytes have come in: a data status, a reset request, or nothing. -/
structure Replies (station : Station) (raw : Bytes) (status request : Option (Identity × Bytes)) :
    Prop where
  isSome_status_iff : status.isSome = true ↔ Frame.AwaitsStatus raw
  isStatusFor : ∀ reply ∈ status, Frame.IsStatusFor raw reply
  /-- Everything else happens at the station where the status has been sent. -/
  handleRaw_eq : station.handleRaw raw = (station.sendAll status.toList).proceed (.raw raw)
  sends : Sends station (station.handleRaw raw).1 (status.toList ++ request.toList)
  mem_request_iff : ∀ target bytes, (target, bytes) ∈ request ↔
    ControlRequest.reset.encode target = .ok bytes ∧
      ∃ frame device, Frame.decode raw = .ok frame ∧ frame.AsksReset ∧
        station.directory.device? frame.identity = some device ∧
          station.store.identity? device = some target
  /-- A status that comes back is not answered, wherever it comes in. -/
  line_eq : ∀ reply ∈ status, ∀ other : Station, (other.handleRaw reply.2).1.line = other.line

theorem line_handleRaw_of_isStatusFor {raw : Bytes} {reply : Identity × Bytes}
    (h : Frame.IsStatusFor raw reply) (other : Station) :
    (other.handleRaw reply.2).1.line = other.line := by
  obtain ⟨byte, response, -, hresponse, hdecode⟩ := h.exists_decode
  have hnone : (Arrival.raw reply.2).status? = none := by
    rw [Arrival.status?_of_decode hdecode]
    rcases hresponse with ⟨-, rfl⟩ | ⟨-, rfl⟩ <;> rfl
  have hquiet : ∀ payload, ¬ (Frame.make reply.1
      ⟨(Header.ofByte byte).paramCount, false, response⟩ payload).AsksReset := by
    intro payload hasks
    have hcontrol : response.isControl = true := hasks.isControl
    rcases hresponse with ⟨-, rfl⟩ | ⟨-, rfl⟩ <;> cases hcontrol
  have hreceive := receive_eq other (.raw reply.2)
  rw [hnone] at hreceive
  calc
    (other.handleRaw reply.2).1.line = (other.proceed (.raw reply.2)).1.line :=
      congrArg (fun result => result.1.line) hreceive
    _ = other.line := by
      simp only [proceed, Arrival.frame, hdecode]
      exact line_route (hquiet _)

/-- **Data statuses.** Whatever comes in, and whether its sender is known or not, a status is sent
exactly if the bytes seem to be a whole business frame, and nothing else but a reset request. -/
theorem exists_replies (station : Station) (raw : Bytes) :
    ∃ status request, station.Replies raw status request := by
  obtain ⟨request, hsends, hmem⟩ := exists_request_receive station (.raw raw)
  have hrequest : ∀ target bytes, (target, bytes) ∈ request ↔
      ControlRequest.reset.encode target = .ok bytes ∧
        ∃ frame device, Frame.decode raw = .ok frame ∧ frame.AsksReset ∧
          station.directory.device? frame.identity = some device ∧
            station.store.identity? device = some target := by
    intro target bytes
    have hencode : ControlRequest.reset.encode target = .ok (ControlRequest.resetBytes target) :=
      rfl
    rw [hmem, hencode, Except.ok.injEq, eq_comm]
    rfl
  exact ⟨(Arrival.raw raw).status?, request,
    { isSome_status_iff := Arrival.isSome_status?_iff
      isStatusFor := fun reply => Arrival.isStatusFor_of_mem_status?
      handleRaw_eq := receive_eq station (.raw raw)
      sends := hsends
      mem_request_iff := hrequest
      line_eq := fun reply hreply =>
        line_handleRaw_of_isStatusFor (Arrival.isStatusFor_of_mem_status? hreply) }⟩

end Station

end SensorGateway
