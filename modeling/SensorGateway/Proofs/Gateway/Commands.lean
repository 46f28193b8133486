import SensorGateway.Gateway.Command
import SensorGateway.Proofs.Control.Requests

/-!
# What a written value sends

A device is commanded by writing to one of its resources, and whoever writes may write anything
anywhere. The constructors of `Written` are all that can become of it. Four of them are nothing but
an answer, and their premises say in which order the reasons count; the fifth is one frame to the
sensor that the store names for the device, in which that sensor finds the command that the resource
is named after (`handleWrite_exact`).
-/

namespace SensorGateway

namespace DeviceCommand

/-- What a command is about, and whether it sets something there. -/
def asks : DeviceCommand → ControlType × Bool
  | timeQuery => (.time, false)
  | timeSet => (.time, true)
  | reset => (.reset, false)
  | identityQuery => (.sensorIdentity, false)
  | generalParameterQuery => (.generalParameters, false)
  | alarmParameterQuery => (.alarmParameters, false)
  | monitoringDataQuery => (.monitoringData, false)

/-- Whoever receives this frame finds the command in it. -/
structure Orders (command : DeviceCommand) (target : Identity) (frame : Frame)
    (message : ControlMessage) : Prop where
  ofFrame_eq : ControlMessage.ofFrame frame = .ok message
  identity_eq : frame.identity = target
  fragmented_eq : frame.fragmented = false
  packetType_eq : frame.packetType = .controlRequest
  kind_eq : message.kind? = some command.asks.1
  flag_eq : message.flag = if command.asks.2 then 1 else 0

variable {command : DeviceCommand} {resource : String}

theorem ofResource_resource (command : DeviceCommand) :
    ofResource command.resource = .ok command := by
  cases command <;> decide

theorem ofResource_of_forall_ne (h : ∀ command : DeviceCommand, command.resource ≠ resource) :
    ofResource resource = .error (.unknownCommand resource) := by
  have hnone : (all.find? fun command => command.resource == resource) = none := by
    rw [List.find?_eq_none]
    intro command _ heq
    exact h command (eq_of_beq heq)
  rw [ofResource, hnone]

/-- The query for all general parameters has no entries, so that every command is admissible. -/
theorem exists_writes (command : DeviceCommand) (seconds : UInt32) :
    ∃ count body, (command.request seconds).Writes count command.asks.2 body ∧
      (command.request seconds).controlType = command.asks.1 := by
  cases command with
  | timeQuery => exact ⟨_, _, .time false 0, rfl⟩
  | timeSet => exact ⟨_, _, .time true seconds, rfl⟩
  | reset => exact ⟨_, _, .reset, rfl⟩
  | identityQuery => exact ⟨_, _, .sensorIdentity false none, rfl⟩
  | generalParameterQuery => exact ⟨_, _, .allParameters, rfl⟩
  | alarmParameterQuery => exact ⟨_, _, .alarmParametersQuery, rfl⟩
  | monitoringDataQuery => exact ⟨_, _, .monitoringDataQuery, rfl⟩

theorem exists_orders (command : DeviceCommand) (seconds : UInt32) (target : Identity) :
    ∃ bytes frame message, (command.request seconds).encode target = .ok bytes ∧
      Frame.decode bytes = .ok frame ∧ command.Orders target frame message := by
  obtain ⟨count, body, hwrites, hkind⟩ := exists_writes command seconds
  refine ⟨_, _, _, hwrites.encode_eq target, ControlRequest.decode_frame ..,
    ControlRequest.ofFrame_frame .., rfl, rfl, rfl, ?_, rfl⟩
  rw [← hkind]
  exact ControlType.ofCode?_code _

end DeviceCommand

namespace Station

variable {station : Station} {device resource : String} {value : Value} {command : DeviceCommand}
  {target : Identity}

/-- The store of a station knows a device, and names this sensor for it. -/
structure Names (station : Station) (device : String) (target : Identity) : Prop where
  contains_eq : station.store.contains device = true
  exists_text : ∃ text, station.store.read? device Store.identityResource = some (.text text) ∧
    Identity.parse text = .ok target

/-- What is sent and what is answered when a value has been written to a resource of a device. -/
inductive Written (station : Station) (device resource : String) (value : Value) :
    Option (Identity × Bytes) → Except Failure Bool → Prop where
  | unknownCommand (hresource : ∀ command : DeviceCommand, command.resource ≠ resource) :
      Written station device resource value none (.error (.unknownCommand resource))
  | ignored {command : DeviceCommand} (hresource : command.resource = resource)
      (hvalue : value.integer? ≠ some 1) :
      Written station device resource value none (.ok false)
  | unknownDevice {command : DeviceCommand} (hresource : command.resource = resource)
      (hvalue : value.integer? = some 1) (hdevice : station.store.contains device = false) :
      Written station device resource value none (.error (.unknownDevice device))
  | missingIdentity {command : DeviceCommand} (hresource : command.resource = resource)
      (hvalue : value.integer? = some 1) (hdevice : station.store.contains device = true)
      (htext : ∀ text target,
        station.store.read? device Store.identityResource = some (.text text) →
          Identity.parse text ≠ .ok target) :
      Written station device resource value none (.error (.missingIdentity device))
  | sent {command : DeviceCommand} {target : Identity} {bytes : Bytes} {frame : Frame}
      {message : ControlMessage} (hresource : command.resource = resource)
      (hvalue : value.integer? = some 1) (hnames : station.Names device target)
      (hdecode : Frame.decode bytes = .ok frame) (horders : command.Orders target frame message)
      (hissue : ∀ clock : Clock, clock.seconds = station.clock.seconds →
        (({ station with clock } : Station).issue device command).2 = .ok bytes) :
      Written station device resource value (some (target, bytes)) (.ok true)

theorem Names.identity?_eq (h : station.Names device target) :
    station.store.identity? device = some target :=
  Store.identity?_eq_some_iff.mpr h.exists_text

/-! ### Issuing a command -/

theorem issue_of_not_contains (hdevice : station.store.contains device = false)
    (command : DeviceCommand) :
    station.issue device command = (station, .error (.unknownDevice device)) := by
  rw [issue, hdevice]
  rfl

theorem issue_of_identity?_eq_none (hdevice : station.store.contains device = true)
    (hidentity : station.store.identity? device = none) (command : DeviceCommand) :
    station.issue device command = (station, .error (.missingIdentity device)) := by
  rw [issue, hdevice, hidentity]
  rfl

theorem issue_of_names {bytes : Bytes} (hnames : station.Names device target)
    (hopen : station.line.isOpen = true)
    (hencode : (command.request station.clock.seconds).encode target = .ok bytes) :
    station.issue device command = (station.send target bytes, .ok bytes) := by
  simp only [issue, hnames.contains_eq, hnames.identity?_eq, hencode, hopen, if_true]
  rfl

/-! ### Writing to a resource -/

theorem handleWrite_of_ne_one (hresource : command.resource = resource)
    (hvalue : value.integer? ≠ some 1) :
    station.handleWrite device resource value = (station, .ok false) := by
  rw [handleWrite, ← hresource, DeviceCommand.ofResource_resource]
  exact if_pos hvalue

theorem handleWrite_of_eq_one (hresource : command.resource = resource)
    (hvalue : value.integer? = some 1) :
    station.handleWrite device resource value =
      ((station.issue device command).1, (station.issue device command).2.map fun _ => true) := by
  rw [handleWrite, ← hresource, DeviceCommand.ofResource_resource]
  exact if_neg (not_not_intro hvalue)

/-- The station after what was sent, if anything was. -/
def sentNow (station : Station) (sent? : Option (Identity × Bytes)) : Station :=
  let sent := sent?.toList.map fun (target, bytes) => Sent.mk station.clock.now target bytes
  { station with line := { station.line with delivered := station.line.delivered ++ sent } }

theorem sentNow_none (station : Station) : station.sentNow none = station := by
  simp [sentNow]

theorem send_eq_sentNow (hopen : station.line.isOpen = true) (target : Identity) (bytes : Bytes) :
    station.send target bytes = station.sentNow (some (target, bytes)) := by
  rw [send, sendAt, Channel.send, if_pos hopen]
  rfl

theorem exists_written (hopen : station.line.isOpen = true) (device resource : String)
    (value : Value) :
    ∃ sent?, Written station device resource value sent?
        (station.handleWrite device resource value).2 ∧
      (station.handleWrite device resource value).1 = station.sentNow sent? := by
  by_cases hexists : ∃ command : DeviceCommand, command.resource = resource
  case neg =>
    have hresource := not_exists.mp hexists
    refine ⟨none, ?_⟩
    rw [handleWrite, DeviceCommand.ofResource_of_forall_ne hresource, sentNow_none]
    exact ⟨.unknownCommand hresource, rfl⟩
  obtain ⟨command, hresource⟩ := hexists
  by_cases hvalue : value.integer? = some 1
  case neg =>
    refine ⟨none, ?_⟩
    rw [handleWrite_of_ne_one hresource hvalue, sentNow_none]
    exact ⟨.ignored hresource hvalue, rfl⟩
  rw [handleWrite_of_eq_one hresource hvalue]
  cases hdevice : station.store.contains device with
  | false =>
    refine ⟨none, ?_⟩
    rw [issue_of_not_contains hdevice, sentNow_none]
    exact ⟨.unknownDevice hresource hvalue hdevice, rfl⟩
  | true =>
    cases hidentity : station.store.identity? device with
    | none =>
      refine ⟨none, ?_⟩
      rw [issue_of_identity?_eq_none hdevice hidentity, sentNow_none]
      have htext := Store.identity?_eq_none_iff.mp hidentity
      exact ⟨.missingIdentity hresource hvalue hdevice htext, rfl⟩
    | some target =>
      have hnames : station.Names device target :=
        ⟨hdevice, Store.identity?_eq_some_iff.mp hidentity⟩
      obtain ⟨bytes, frame, message, hencode, hdecode, horders⟩ :=
        command.exists_orders station.clock.seconds target
      refine ⟨some (target, bytes), ?_⟩
      rw [issue_of_names hnames hopen hencode, send_eq_sentNow hopen]
      refine ⟨.sent hresource hvalue hnames hdecode horders ?_, rfl⟩
      intro clock hseconds
      have hsame : ({ station with clock } : Station).Names device target :=
        ⟨hdevice, hnames.exists_text⟩
      rw [← hseconds] at hencode
      exact congrArg Prod.snd (issue_of_names hsame hopen hencode)

theorem Written.isSome_iff {sent? : Option (Identity × Bytes)} {answer : Except Failure Bool}
    (h : Written station device resource value sent? answer) :
    sent?.isSome = true ↔ (∃ command : DeviceCommand, command.resource = resource) ∧
      value.integer? = some 1 ∧ ∃ target, station.Names device target := by
  cases h with
  | unknownCommand hresource =>
    exact iff_of_false nofun fun ⟨⟨command, heq⟩, _⟩ => hresource command heq
  | ignored _ hvalue => exact iff_of_false nofun fun ⟨_, hone, _⟩ => hvalue hone
  | unknownDevice _ _ hdevice =>
    refine iff_of_false nofun fun ⟨_, _, _, hnames⟩ => ?_
    exact Bool.false_ne_true (hdevice.symm.trans hnames.contains_eq)
  | missingIdentity _ _ _ htext =>
    refine iff_of_false nofun fun ⟨_, _, target, hnames⟩ => ?_
    obtain ⟨text, hread, hparse⟩ := hnames.exists_text
    exact htext text target hread hparse
  | sent hresource hvalue hnames =>
    exact iff_of_true rfl ⟨⟨_, hresource⟩, hvalue, _, hnames⟩

/-- **A written value sends one right command or nothing.** As long as the line takes frames,
exactly one is sent if the resource is a command's, the value is one and the store names a sensor
for the device, and otherwise none; `Written` says which frame, and what is answered. Nothing else
changes. -/
theorem handleWrite_exact (hopen : station.line.isOpen = true) (device resource : String)
    (value : Value) :
    let outcome := station.handleWrite device resource value
    ∃ sent?, Written station device resource value sent? outcome.2 ∧
      outcome.1 = station.sentNow sent? ∧ outcome.1.store = station.store ∧
      (sent?.isSome = true ↔ (∃ command : DeviceCommand, command.resource = resource) ∧
        value.integer? = some 1 ∧ ∃ target, station.Names device target) := by
  intro outcome
  obtain ⟨sent?, hwritten, hstation⟩ := exists_written hopen device resource value
  have hstore : outcome.1.store = (station.sentNow sent?).store := congrArg Station.store hstation
  exact ⟨sent?, hwritten, hstation, hstore, hwritten.isSome_iff⟩

/-- A one that is written to the resource for setting the clock sends a frame to the sensor whose
identity the store has in lower case and with blanks. -/
theorem handleWrite_exact_timeSet :
    let station : Station :=
      { Station.empty "AsyncReporting" with
        store := Store.empty.write "transformer" Store.identityResource (.text "aabb ccdd eeff") }
    let sensor : Identity := ⟨[0xAA, 0xBB, 0xCC, 0xDD, 0xEE, 0xFF], rfl⟩
    let outcome := station.handleWrite "transformer" "Time_Parameter_Set" (.i64 1)
    station.line.isOpen = true ∧ outcome.2 = .ok true ∧
      ∃ bytes frame message, outcome.1.line.delivered = [⟨0, sensor, bytes⟩] ∧
        Frame.decode bytes = .ok frame ∧ DeviceCommand.timeSet.Orders sensor frame message := by
  intro station sensor outcome
  have hopen : station.line.isOpen = true := rfl
  have hparse : Identity.parse "aabb ccdd eeff" = .ok sensor := by decide +kernel
  have hread : station.store.read? "transformer" Store.identityResource =
      some (.text "aabb ccdd eeff") := rfl
  have hnames : station.Names "transformer" sensor := ⟨rfl, _, hread, hparse⟩
  obtain ⟨sent?, hwritten, hstation, -, hiff⟩ :=
    handleWrite_exact hopen "transformer" "Time_Parameter_Set" (.i64 1)
  have hsome := hiff.mpr ⟨⟨.timeSet, rfl⟩, rfl, sensor, hnames⟩
  refine ⟨hopen, ?_⟩
  change outcome.1 = _ at hstation
  change Written _ _ _ _ _ outcome.2 at hwritten
  generalize outcome.2 = answer at hwritten ⊢
  cases hwritten with
  | @sent command target bytes frame message hresource _ hother hdecode horders =>
    obtain rfl : command = .timeSet := by
      have hcommand := DeviceCommand.ofResource_resource command
      rw [hresource] at hcommand
      exact (Except.ok.inj hcommand).symm
    obtain rfl : target = sensor :=
      Option.some.inj (hother.identity?_eq.symm.trans hnames.identity?_eq)
    refine ⟨rfl, bytes, frame, message, ?_, hdecode, horders⟩
    rw [hstation]
    rfl
  | _ => cases hsome

end Station

end SensorGateway
