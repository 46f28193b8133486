import SensorGateway.CommandLine.Inspection
import SensorGateway.Proofs.Gateway.Recording
import SensorGateway.Proofs.Parameter.Readings

/-!
# What is shown and what is taken

A frame is read in two places. The command line shows the parameters in it, and the gateway takes
them to the store and into a report. For a business frame both decode the same bytes. In a control
frame the list stands behind the control byte, and there the gateway begins, while the command line
begins with the control byte itself. So if all that a reply announces can be taken, then something
else is shown of it (`shown_and_taken`).
-/

namespace SensorGateway

namespace Entry

variable {low high : UInt8} {tail rest : Bytes} {entry : Entry}

theorem read_cons_eq_ok (hread : read (low :: high :: tail) = .ok (entry, rest)) :
    entry.head.toNat = low.toNat + 256 * high.toNat ∧
      entry.data.length =
        entry.flag.decode (tail.take entry.flag.fieldLength) := by
  have hlow := low.toNat_lt
  have hhigh := high.toNat_lt
  simp only [read] at hread
  split_ifs at hread with hfield hdata
  cases hread
  refine ⟨?_, List.length_take_of_le (Nat.not_lt.mp hdata)⟩
  rw [UInt16.toNat_ofNat']
  simp only [Bytes.toNatLE]
  omega

end Entry

namespace ReadingList

variable {payload : Bytes} {count : Nat}

theorem length_values_le (payload : Bytes) (count : Nat) :
    (decode payload count).values.length ≤ count := by
  induction count generalizing payload with
  | zero => exact Nat.le_refl 0
  | succ count ih =>
    cases hread : Entry.read payload with
    | error cause =>
      rw [decode_of_read_error hread]
      exact Nat.zero_le _
    | ok found =>
      obtain ⟨entry, rest⟩ := found
      have hone : (ofResults [Reading.ofEntry entry]).values.length ≤ 1 :=
        List.length_filterMap_le _ _
      have hrest := ih rest
      rw [decode_of_read_ok hread, values_append, List.length_append]
      simp only [shifted]
      omega

/-- If there are as many values as entries were announced, the first value is that of the first
entry. -/
theorem exists_first_of_complete
    (hcomplete : (decode payload (count + 1)).values.length = count + 1) :
    ∃ entry rest reading, Entry.read payload = .ok (entry, rest) ∧
      Reading.ofEntry entry = .ok reading ∧
        (decode payload (count + 1)).values.head? = some reading := by
  cases hread : Entry.read payload with
  | error cause =>
    rw [decode_of_read_error hread] at hcomplete
    exact absurd hcomplete.symm (Nat.succ_ne_zero count)
  | ok found =>
    obtain ⟨entry, rest⟩ := found
    have hrest := length_values_le rest count
    rw [decode_of_read_ok hread] at hcomplete ⊢
    cases hentry : Reading.ofEntry entry with
    | error failure =>
      rw [hentry, values_append, List.length_append] at hcomplete
      simp only [shifted, ofResults, List.filterMap_cons, List.filterMap_nil, List.length_nil]
        at hcomplete
      omega
    | ok reading => exact ⟨entry, rest, reading, rfl, hentry, rfl⟩

end ReadingList

theorem Reading.exists_parameter_of_ofEntry {entry : Entry} {reading : Reading}
    (hreading : ofEntry entry = .ok reading) :
    reading.typeCode = entry.typeCode ∧ ∃ parameter ∈ Catalogue.parameters,
      parameter.typeCode = entry.typeCode ∧
        parameter.kind.admits entry.data.length = true := by
  have hsays := entry.says_ofEntry
  rw [hreading] at hsays
  cases hsays with
  | value parameter value hknown htype hdecode =>
    refine ⟨rfl, parameter, hknown, htype, ?_⟩
    by_contra hrefused
    rw [Parameter.decode, ValueKind.decode, if_neg hrefused] at hdecode
    cases hdecode

theorem ControlKey.lt_of_commonParameters {byte : UInt8}
    (hhandler : (ofByte byte).handler? = some .commonParameters) :
    2 ≤ byte.toNat ∧ byte.toNat < 8 := by
  unfold handler? ofByte at hhandler
  dsimp only at hhandler
  cases htype : ControlType.ofCode? (byte / 2) with
  | none => simp [htype] at hhandler
  | some type =>
    have hcode := congrArg UInt8.toNat (ControlType.ofCode?_eq_some_iff.mp htype)
    rw [UInt8.toNat_div] at hcode
    cases type with
    | generalParameters | monitoringData | alarmParameters =>
      simp [ControlType.code] at hcode
      omega
    | time | sensorIdentity | reset => simp [htype] at hhandler
    | resetTrigger =>
      cases hset : byte % 2 == 1 <;> simp [htype, hset] at hhandler

/-- A field that begins with a two announces two bytes, or far more than four. -/
theorem LengthFlag.decode_ne_four {head : UInt16} {first : UInt8} {tail : Bytes}
    (hhead : head.toNat % 4 = 2 ∨ head.toNat % 4 = 3) (hfirst : first.toNat = 2) :
    (ofBits head).decode ((first :: tail).take (ofBits head).fieldLength) ≠ 4 := by
  unfold ofBits
  rcases hhead with htwo | hthree
  · rw [htwo]
    rcases tail with - | ⟨second, tail⟩
    · simp [decode, fieldLength, Bytes.toNatLE, hfirst]
    · simp [decode, fieldLength, Bytes.toNatLE, hfirst]
      omega
  · rw [hthree]
    rcases tail with - | ⟨second, - | ⟨third, tail⟩⟩
    · simp [decode, fieldLength, Bytes.toNatBE, Bytes.toNatLE, hfirst]
    · simp [decode, fieldLength, Bytes.toNatBE, Bytes.toNatLE, hfirst]
    · simp [decode, fieldLength, Bytes.toNatBE, Bytes.toNatLE, hfirst]
      omega

namespace Entry

variable {byte : UInt8} {list rest earlyRest : Bytes} {entry early : Entry}

theorem toNat_typeCode (entry : Entry) : entry.typeCode.toNat = entry.head.toNat / 4 := by
  simp [typeCode]

/-- If the entry that begins a byte earlier has the same type code, then the low bits of the type
code repeat the high ones; of the known ones only active power is like that. -/
theorem eq_activePower_of_echo {parameter : Parameter} (hmem : parameter ∈ Catalogue.parameters)
    (hsmall : parameter.typeCode.toNat / 64 < 8)
    (hecho : parameter.typeCode.toNat % 64 = parameter.typeCode.toNat / 64 / 4) :
    parameter.typeCode.toNat = 128 ∧ parameter.kind = .f32 := by
  have hall : ∀ parameter ∈ Catalogue.parameters, parameter.typeCode.toNat / 64 < 8 →
      parameter.typeCode.toNat % 64 = parameter.typeCode.toNat / 64 / 4 →
        parameter.typeCode.toNat = 128 ∧ parameter.kind = .f32 := by decide +kernel
  exact hall parameter hmem hsmall hecho

/-- If an entry that begins a byte earlier has the same known type code, then its data has another
length than the parameter. -/
theorem not_admits_of_early (hbyte : 2 ≤ byte.toNat ∧ byte.toNat < 8)
    (hread : read list = .ok (entry, rest)) (hearly : read (byte :: list) = .ok (early, earlyRest))
    (hsame : early.typeCode = entry.typeCode) {parameter : Parameter}
    (hmem : parameter ∈ Catalogue.parameters) (htype : parameter.typeCode = early.typeCode) :
    parameter.kind.admits early.data.length = false := by
  rcases list with - | ⟨low, - | ⟨high, tail⟩⟩
  · cases hread
  · cases hread
  obtain ⟨hhead, _⟩ := read_cons_eq_ok hread
  obtain ⟨hearlyHead, hlength⟩ := read_cons_eq_ok hearly
  have hlow := low.toNat_lt
  have hhigh := high.toNat_lt
  have hcode : parameter.typeCode.toNat = byte.toNat / 4 + 64 * low.toNat := by
    rw [htype, toNat_typeCode, hearlyHead]
    omega
  have hshifted : parameter.typeCode.toNat = low.toNat / 4 + 64 * high.toNat := by
    rw [htype, hsame, toNat_typeCode, hhead]
    omega
  have hearlyLow : parameter.typeCode.toNat / 64 = low.toNat := by omega
  have hechoed : parameter.typeCode.toNat / 64 = high.toNat := by omega
  -- the type code is 128, so the byte is two or three, and the field behind it begins with a two
  obtain ⟨hpower, hkind⟩ := eq_activePower_of_echo hmem (by omega) (by omega)
  have hannounced : early.data.length ≠ 4 := by
    rw [hlength]
    exact LengthFlag.decode_ne_four (by omega) (by omega)
  rw [hkind]
  simpa [ValueKind.admits, ValueKind.isArray, ValueKind.elementLength] using hannounced

end Entry

namespace ReadingList

variable {byte : UInt8} {list : Bytes} {count : Nat}

/-- An entry that begins a byte earlier is never an entry of the same known parameter. -/
theorem values_cons_ne (hbyte : 2 ≤ byte.toNat ∧ byte.toNat < 8)
    (hcomplete : (decode list (count + 1)).values.length = count + 1) :
    (decode (byte :: list) (count + 1)).values ≠ (decode list (count + 1)).values := by
  intro heq
  obtain ⟨entry, rest, reading, hread, hentry, hhead⟩ := exists_first_of_complete hcomplete
  rw [← heq] at hcomplete hhead
  obtain ⟨early, _, other, hearly, hother, hfirst⟩ := exists_first_of_complete hcomplete
  cases hhead.symm.trans hfirst
  obtain ⟨htype, _⟩ := Reading.exists_parameter_of_ofEntry hentry
  obtain ⟨hsame, parameter, hmem, hcode, hadmits⟩ := Reading.exists_parameter_of_ofEntry hother
  have hrefused := Entry.not_admits_of_early hbyte hread hearly (hsame.symm.trans htype) hmem hcode
  exact absurd hadmits (Bool.eq_false_iff.mp hrefused)

end ReadingList

namespace Frame

def shown (frame : Frame) : List Reading :=
  (ReadingList.decode frame.payload frame.paramCount.toNat).values

variable {raw list : Bytes} {frame : Frame} {station : Station} {device hex : String}

/-- What is printed of a frame is its readings, one JSON object for each, in their order. -/
theorem exists_fields_of_showFrame (hhex : CommandLine.enteredBytes hex = .ok raw)
    (hraw : Frame.decode raw = .ok frame) :
    ∃ fields, CommandLine.showFrame hex = .ok [(Json.object fields).pretty] ∧
      ("parameters", .array (frame.shown.map CommandLine.readingJson)) ∈ fields := by
  have hprinted : CommandLine.showFrame hex = .ok [(CommandLine.frameJson frame).pretty] := by
    unfold CommandLine.showFrame
    rw [hhex]
    simp only [bind, Except.bind, hraw]
    rfl
  have hfields : ∃ fields, CommandLine.frameJson frame = .object fields ∧
      ("parameters", .array (frame.shown.map CommandLine.readingJson)) ∈ fields :=
    ⟨_, rfl, by simp [shown]⟩
  obtain ⟨fields, hjson, hmem⟩ := hfields
  exact ⟨fields, hjson ▸ hprinted, hmem⟩

theorem exists_cons_of_parameters (hcontrol : frame.packetType.isControl = true)
    (hlist : frame.parameters? = some list) :
    ∃ byte, frame.payload = byte :: list ∧
      (ControlKey.ofByte byte).handler? = some .commonParameters := by
  unfold parameters? at hlist
  rw [if_neg (Bool.eq_false_iff.mp (PacketType.isBusiness_of_isControl hcontrol)),
    if_pos hcontrol] at hlist
  cases hpayload : frame.payload with
  | nil => simp [hpayload] at hlist
  | cons byte body =>
    simp only [hpayload] at hlist
    split_ifs at hlist with hhandler
    cases hlist
    exact ⟨byte, rfl, hhandler⟩

/-- **What is shown of a frame and what the gateway takes from it.** They are the same in a business
frame. In a control frame the command line takes the control byte for the beginning of the list, and
if the gateway can take everything that was announced, then something else is shown. -/
theorem shown_and_taken (hraw : Frame.decode raw = .ok frame) (hwhole : frame.fragmented = false)
    (hlist : frame.parameters? = some list)
    (hdevice : station.directory.device? frame.identity = some device) :
    let taken := (ReadingList.decode list frame.paramCount.toNat).values
    (∃ line, (station.handleRaw raw).1 =
      (({ station with line } : Station).dated device).recorded device taken) ∧
      (∀ hex, CommandLine.enteredBytes hex = .ok raw →
        ∃ fields, CommandLine.showFrame hex = .ok [(Json.object fields).pretty] ∧
          ("parameters", .array (frame.shown.map CommandLine.readingJson)) ∈ fields) ∧
      (frame.packetType.isBusiness = true → frame.shown = taken) ∧
      (frame.packetType.isControl = true →
        (∃ byte, frame.payload = byte :: list) ∧
          (taken ≠ [] → taken.length = frame.paramCount.toNat → frame.shown ≠ taken)) := by
  intro taken
  refine ⟨?_, fun hex hhex => exists_fields_of_showFrame hhex hraw, ?_, ?_⟩
  · have hframe : (Arrival.raw raw).frame = .ok frame := hraw
    exact Station.exists_receive_of_parameters hframe hwhole hlist hdevice
  · intro hbusiness
    rw [parameters?_of_isBusiness hbusiness, Option.some.injEq] at hlist
    rw [shown, hlist]
  · intro hcontrol
    obtain ⟨byte, hpayload, hhandler⟩ := exists_cons_of_parameters hcontrol hlist
    refine ⟨⟨byte, hpayload⟩, fun hsome hcomplete => ?_⟩
    obtain ⟨count, hcount⟩ : ∃ count, frame.paramCount.toNat = count + 1 := by
      refine Nat.exists_eq_add_one.mpr ?_
      rw [← hcomplete]
      exact List.length_pos_iff.mpr hsome
    unfold shown
    simp only [taken, hcount, hpayload] at hcomplete ⊢
    exact ReadingList.values_cons_ne (ControlKey.lt_of_commonParameters hhandler) hcomplete

/-- The reply of a sensor to a query of its general parameters: the power is on. -/
def powerReply : Frame :=
  make ⟨[0xA0, 0xB1, 0xC2, 0xD3, 0xE4, 0xF5], rfl⟩ (Header.make 1 false .controlResponse)
    [0x03, 0x85, 0x00, 0x01, 0x01]

/-- The gateway takes the power status, and the command line prints an empty list. -/
theorem shown_and_taken_powerReply :
    let station : Station :=
      { Station.empty "AsyncReporting" with
        directory := Directory.empty.add powerReply.identity "oil" }
    let taken : List Reading := [⟨0x0021, "PowerStatus", "", .u8 1⟩]
    (∃ line, (station.handleRaw powerReply.encode).1 =
      (({ station with line } : Station).dated "oil").recorded "oil" taken) ∧
      (∃ fields, CommandLine.showFrame "A0B1C2D3E4F5150385000101139D" =
        .ok [(Json.object fields).pretty] ∧ ("parameters", .array []) ∈ fields) ∧
      powerReply.shown ≠ taken := by
  intro station taken
  have hraw : Frame.decode powerReply.encode = .ok powerReply := decode_encode_make ..
  have htaken : (ReadingList.decode [0x85, 0x00, 0x01, 0x01]
      powerReply.paramCount.toNat).values = taken := by
    decide +kernel
  have hshown : powerReply.shown = [] := by decide +kernel
  have hlist : powerReply.parameters? = some [0x85, 0x00, 0x01, 0x01] := by decide +kernel
  have hdevice : station.directory.device? powerReply.identity = some "oil" := rfl
  have hhex : CommandLine.enteredBytes "A0B1C2D3E4F5150385000101139D" = .ok powerReply.encode := by
    decide +kernel
  obtain ⟨hstation, hprinted, -, hcontrol⟩ :=
    shown_and_taken hraw rfl hlist hdevice
  rw [htaken] at hstation hcontrol
  obtain ⟨fields, hshow, hmem⟩ := hprinted _ hhex
  rw [hshown] at hmem
  exact ⟨hstation, ⟨fields, hshow, hmem⟩, (hcontrol rfl).2 (by decide) rfl⟩

/-- What is shown is not always what the gateway takes. -/
theorem not_forall_shown_eq_taken :
    ¬∀ (raw list : Bytes) (frame : Frame) (station : Station) (device : String),
      Frame.decode raw = .ok frame → frame.fragmented = false → frame.parameters? = some list →
        station.directory.device? frame.identity = some device →
          frame.shown = (ReadingList.decode list frame.paramCount.toNat).values := by
  intro hall
  let station : Station :=
    { Station.empty "AsyncReporting" with
      directory := Directory.empty.add powerReply.identity "oil" }
  have hsame := hall powerReply.encode [0x85, 0x00, 0x01, 0x01] powerReply station "oil"
    (decode_encode_make ..) rfl (by decide +kernel) rfl
  have hdiffer : powerReply.shown ≠
      (ReadingList.decode [0x85, 0x00, 0x01, 0x01] powerReply.paramCount.toNat).values := by
    decide +kernel
  exact hdiffer hsame

end Frame

end SensorGateway
