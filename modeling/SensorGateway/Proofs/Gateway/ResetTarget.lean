import SensorGateway.Proofs.Bytes.Hex
import SensorGateway.Proofs.Gateway.Footprint

/-!
# Whom a reset reaches

A sensor that asks to be reset is reset through its device: the request goes to the identity that is
stored for the device, and as long as only the gateway writes to the store, that is the one of the
last entry for the device in the settings. Which device it is says the last entry for the sensor. So
a sensor resets itself if its device is listed with no other sensor (`resets_listed`). If it is, as
while a sensor is being replaced, the wish of either one resets the one that is listed last.
-/

namespace SensorGateway

namespace DeviceMapping

def identity? (mapping : DeviceMapping) : Option Identity :=
  (Identity.parse mapping.identity).toOption

def lastDevice? (mappings : List DeviceMapping) (identity : Identity) : Option String :=
  mappings.reverse.findSome? fun mapping =>
    if mapping.identity? = some identity then some mapping.device else none

def lastIdentity? (mappings : List DeviceMapping) (device : String) : Option Identity :=
  mappings.reverse.findSome? fun mapping =>
    if mapping.device = device then mapping.identity? else none

variable {mappings : List DeviceMapping} {identity : Identity} {device : String}

theorem identity?_eq_some_iff {mapping : DeviceMapping} :
    mapping.identity? = some identity ↔ Identity.parse mapping.identity = .ok identity := by
  unfold DeviceMapping.identity?
  cases Identity.parse mapping.identity <;> simp [Except.toOption]

theorem lastDevice?_cons (mapping : DeviceMapping) (rest : List DeviceMapping)
    (identity : Identity) :
    lastDevice? (mapping :: rest) identity = (lastDevice? rest identity).or
      (if mapping.identity? = some identity then some mapping.device else none) := by
  rw [lastDevice?, List.reverse_cons, List.findSome?_append, List.findSome?_singleton]
  rfl

theorem lastIdentity?_cons (mapping : DeviceMapping) (rest : List DeviceMapping)
    (device : String) :
    lastIdentity? (mapping :: rest) device = (lastIdentity? rest device).or
      (if mapping.device = device then mapping.identity? else none) := by
  rw [lastIdentity?, List.reverse_cons, List.findSome?_append, List.findSome?_singleton]
  rfl

theorem exists_mem_of_lastDevice? (h : lastDevice? mappings identity = some device) :
    ∃ mapping ∈ mappings, mapping.device = device ∧ mapping.identity? = some identity := by
  obtain ⟨mapping, hmem, hmapping⟩ := List.exists_of_findSome?_eq_some h
  split_ifs at hmapping with hidentity
  exact ⟨mapping, List.mem_reverse.mp hmem, Option.some.inj hmapping, hidentity⟩

theorem exists_mem_of_lastIdentity? (h : lastIdentity? mappings device = some identity) :
    ∃ mapping ∈ mappings, mapping.device = device ∧ mapping.identity? = some identity := by
  obtain ⟨mapping, hmem, hmapping⟩ := List.exists_of_findSome?_eq_some h
  split_ifs at hmapping with hdevice
  exact ⟨mapping, List.mem_reverse.mp hmem, hdevice, hmapping⟩

theorem lastDevice?_eq_none_iff :
    lastDevice? mappings identity = none ↔
      ∀ mapping ∈ mappings, mapping.identity? ≠ some identity := by
  simp [lastDevice?, List.findSome?_eq_none_iff]

/-- The device of a listed sensor is listed with a sensor, but not necessarily with this one. -/
theorem exists_lastIdentity?_eq (h : lastDevice? mappings identity = some device) :
    ∃ found, lastIdentity? mappings device = some found := by
  obtain ⟨mapping, hmem, hdevice, hidentity⟩ := exists_mem_of_lastDevice? h
  apply Option.ne_none_iff_exists'.mp
  intro hnone
  have hentry := List.findSome?_eq_none_iff.mp hnone mapping (List.mem_reverse.mpr hmem)
  rw [if_pos hdevice, hidentity] at hentry
  cases hentry

theorem lastIdentity?_of_sole (h : lastDevice? mappings identity = some device)
    (hsole : ∀ mapping ∈ mappings, mapping.device = device → mapping.identity? = some identity) :
    lastIdentity? mappings device = some identity := by
  obtain ⟨found, hfound⟩ := exists_lastIdentity?_eq h
  obtain ⟨mapping, hmem, hdevice, hidentity⟩ := exists_mem_of_lastIdentity? hfound
  rw [hfound, ← hidentity]
  exact hsole mapping hmem hdevice

end DeviceMapping

open DeviceMapping

theorem Settings.device?_of_directoryFrom {mappings : List DeviceMapping}
    {directory result : Directory} (h : directoryFrom directory mappings = .ok result)
    (identity : Identity) :
    result.device? identity = (lastDevice? mappings identity).or (directory.device? identity) := by
  induction mappings generalizing directory with
  | nil =>
    cases h
    rfl
  | cons mapping rest ih =>
    unfold directoryFrom at h
    cases hparse : Identity.parse mapping.identity with
    | error cause =>
      rw [hparse] at h
      cases h
    | ok found =>
      rw [hparse] at h
      have hfound := identity?_eq_some_iff.mpr hparse
      rw [ih h, lastDevice?_cons, hfound, Option.or_assoc, Directory.add, Directory.device?,
        Keyed.get?_insert]
      by_cases heq : identity = found
      · simp [heq]
      · simp [heq, Ne.symm heq, Directory.device?]

namespace Pipeline

variable {settings : Settings} {station : Station} {pipeline next : Pipeline}

theorem read?_of_seed {mappings : List DeviceMapping} {store after : Store}
    (h : seed store mappings = (after, .ok ())) (device resource : String) :
    after.read? device resource =
      if resource = Store.identityResource then
        ((lastIdentity? mappings device).map fun identity => Value.text identity.toHex).or
          (store.read? device resource)
      else store.read? device resource := by
  induction mappings generalizing store with
  | nil =>
    cases h
    exact (ite_self _).symm
  | cons mapping rest ih =>
    unfold seed at h
    cases hparse : Identity.parse mapping.identity with
    | error cause =>
      rw [hparse] at h
      cases h
    | ok found =>
      rw [hparse] at h
      have hfound := identity?_eq_some_iff.mpr hparse
      rw [ih h, lastIdentity?_cons, hfound, Store.read?_write]
      by_cases hresource : resource = Store.identityResource
      · by_cases hdevice : device = mapping.device
        · cases lastIdentity? rest device <;> simp [hresource, hdevice]
        · cases lastIdentity? rest device <;> simp [hresource, hdevice, Ne.symm hdevice]
      · simp [hresource]

theorem identity?_of_seed {mappings : List DeviceMapping} {store after : Store}
    (h : seed store mappings = (after, .ok ())) (device : String) :
    after.identity? device = (lastIdentity? mappings device).or (store.identity? device) := by
  rw [Store.identity?, Store.identity?, read?_of_seed h, if_pos rfl]
  cases lastIdentity? mappings device with
  | none => rfl
  | some identity => simp [Value.text?, Identity.parse_toHex, Except.toOption]

theorem seed_of_start (h : (start settings station).2 = .ok pipeline) :
    pipeline.station.directory = station.directory ∧
      seed station.store settings.devices = (pipeline.station.store, .ok ()) := by
  have hstarted := started settings station
  cases hstart : start settings station with
  | mk after result =>
    rw [hstart] at h hstarted
    cases hstarted with
    | refused | stopped | tooDeep => cases h
    | running store _ hseed =>
      cases h
      exact ⟨rfl, hseed⟩

/-- A gateway at work, where nobody else writes to the store or changes the directory. -/
inductive Operated (start : Pipeline) : Pipeline → Prop where
  | start : Operated start start
  | intake {pipeline next : Pipeline} (h : Operated start pipeline)
      (hstep : pipeline.intakeStep? = some next) : Operated start next
  | shards {pipeline next : Pipeline} (h : Operated start pipeline)
      (hstep : pipeline.shardStep? = some next) : Operated start next
  | elsewhere {pipeline next : Pipeline} (h : Operated start pipeline)
      (hdirectory : next.station.directory = pipeline.station.directory)
      (hstore : next.station.store = pipeline.station.store) : Operated start next

end Pipeline

namespace Station

variable {start station : Station}

theorem store_submit (station : Station) (engine : Engine) (frame : Frame) :
    (station.submit engine frame).1.store = station.store := by
  unfold submit
  dsimp only
  split <;> rfl

theorem Course.answered (h : Course start station) (engine : Engine) (frame : Frame) :
    Course start (station.answered engine frame) := by
  have hsubmitted : Course start (station.submit engine frame).1 :=
    h.elsewhere (station.store_submit engine frame)
  unfold Station.answered
  dsimp only
  cases (station.submit engine frame).2.2.result.toOption.join with
  | none => exact hsubmitted
  | some whole => exact hsubmitted.receive (.reassembled whole)

end Station

namespace Pipeline

variable {settings : Settings} {station : Station} {start pipeline next : Pipeline}

theorem Operated.course (h : Operated start pipeline) :
    Station.Course start.station pipeline.station := by
  induction h with
  | start => exact .start
  | intake _ hstep ih =>
    cases (intakeMove hstep).2 with
    | ended => exact ih
    | routed raw | passedOn raw | dropped raw | stopped raw => exact ih.receive (.raw raw)
  | shards _ hstep ih =>
    cases (shardMove hstep).2 with
    | ended | faulted => exact ih
    | answered frame => exact ih.answered _ frame
  | elsewhere _ _ hstore ih => exact ih.elsewhere hstore

theorem Operated.directory_eq (h : Operated start pipeline) :
    pipeline.station.directory = start.station.directory := by
  induction h with
  | start => rfl
  | intake _ hstep ih =>
    cases (intakeMove hstep).2 with
    | ended => exact ih
    | routed raw | passedOn raw | dropped raw | stopped raw =>
      exact (Station.keeps_handleRaw _ raw).directory_eq.trans ih
  | shards _ hstep ih =>
    cases (shardMove hstep).2 with
    | ended | faulted => exact ih
    | answered frame => exact (Station.keeps_answered _ _ frame).directory_eq.trans ih
  | elsewhere _ hdirectory _ ih => exact hdirectory.trans ih

end Pipeline

namespace Station

variable {station : Station} {arrival : Arrival} {frame : Frame}

theorem status?_of_asksReset (hframe : arrival.frame = .ok frame) (hasks : frame.AsksReset) :
    arrival.status? = none := by
  cases arrival with
  | reassembled => rfl
  | raw bytes =>
    have hquiet : frame.packetType.isBusiness = false :=
      PacketType.isBusiness_of_isControl hasks.isControl
    rw [Arrival.status?_of_decode hframe, ← Option.not_isSome_iff_eq_none,
      DataStatus.isSome_reply?_iff]
    rintro ⟨_, hbusiness⟩
    exact absurd (hquiet.symm.trans hbusiness) Bool.false_ne_true

/-- A wish to be reset leads to one request at most, and to nothing else. -/
theorem sends_receive_of_asksReset (hframe : arrival.frame = .ok frame) (hasks : frame.AsksReset) :
    Sends station (station.receive arrival).1
      (((station.directory.device? frame.identity).bind station.store.identity?).toList.map
        fun target => (target, ControlRequest.resetBytes target)) := by
  have hroute : station.receive arrival = station.route frame := by
    rw [receive_of_frame hframe, status?_of_asksReset hframe hasks]
    rfl
  rw [hroute]
  cases hdevice : station.directory.device? frame.identity with
  | none => exact sends_nil (by simp only [route, hdevice])
  | some device =>
    rw [route_of_asksReset hasks hdevice]
    exact (sends_sendAll (station.dated device) _).congr rfl rfl

end Station

/-- The sensor that is reset when this one asks for it. -/
def Settings.resetTarget? (settings : Settings) (identity : Identity) : Option Identity :=
  (lastDevice? settings.devices identity).bind (lastIdentity? settings.devices)

theorem Settings.isSome_resetTarget?_iff {settings : Settings} {identity : Identity} :
    (settings.resetTarget? identity).isSome = true ↔
      ∃ mapping ∈ settings.devices, mapping.identity? = some identity := by
  unfold resetTarget?
  cases hlisted : lastDevice? settings.devices identity with
  | none =>
    simpa using lastDevice?_eq_none_iff.mp hlisted
  | some device =>
    obtain ⟨mapping, hmem, _, hidentity⟩ := exists_mem_of_lastDevice? hlisted
    obtain ⟨found, hfound⟩ := exists_lastIdentity?_eq hlisted
    rw [Option.bind_some, hfound]
    exact iff_of_true rfl ⟨mapping, hmem, hidentity⟩

namespace Pipeline

variable {settings : Settings} {station : Station} {pipeline later : Pipeline}

/-- However long the gateway has been at work, the settings say whom it resets. -/
theorem Operated.resetTarget?_eq (hstart : (Pipeline.start settings station).2 = .ok pipeline)
    (hdirectory : settings.directory = .ok station.directory) (hrun : Operated pipeline later)
    (identity : Identity) :
    (later.station.directory.device? identity).bind later.station.store.identity? =
      settings.resetTarget? identity := by
  obtain ⟨hkept, hseed⟩ := seed_of_start hstart
  have hdevice : later.station.directory.device? identity =
      lastDevice? settings.devices identity := by
    rw [hrun.directory_eq, hkept, Settings.device?_of_directoryFrom hdirectory]
    exact Option.or_none
  have hidentity : ∀ device, later.station.store.identity? device =
      (lastIdentity? settings.devices device).or (station.store.identity? device) := by
    intro device
    rw [hrun.course.identity?_eq device, identity?_of_seed hseed]
  rw [hdevice, Settings.resetTarget?]
  cases hlisted : lastDevice? settings.devices identity with
  | none => rfl
  | some device =>
    -- the device is listed, so whatever else was stored for it has been overwritten at the start
    obtain ⟨found, hfound⟩ := exists_lastIdentity?_eq hlisted
    rw [Option.bind_some, Option.bind_some, hidentity, hfound, Option.some_or]

/-- **Whom a reset reaches.** A sensor that asks to be reset has the sensor reset that is listed
last for its device, and so itself if the device is listed with no other one. -/
theorem Operated.resets_listed (hstart : (Pipeline.start settings station).2 = .ok pipeline)
    (hdirectory : settings.directory = .ok station.directory) (hrun : Operated pipeline later)
    {arrival : Arrival} {frame : Frame} (hframe : arrival.frame = .ok frame)
    (hasks : frame.AsksReset) :
    let target? := settings.resetTarget? frame.identity
    Station.Sends later.station (later.station.receive arrival).1
        (target?.toList.map fun target => (target, ControlRequest.resetBytes target)) ∧
      (target?.isSome = true ↔
        ∃ mapping ∈ settings.devices, mapping.identity? = some frame.identity) ∧
      (∀ target ∈ target?, ∃ request,
        Frame.decode (ControlRequest.resetBytes target) = .ok request ∧
          request.identity = target) ∧
      ∀ device, lastDevice? settings.devices frame.identity = some device →
        (∀ mapping ∈ settings.devices, mapping.device = device →
          mapping.identity? = some frame.identity) →
          target? = some frame.identity := by
  intro target?
  refine ⟨?_, Settings.isSome_resetTarget?_iff, ?_, ?_⟩
  · have htarget : _ = target? := hrun.resetTarget?_eq hstart hdirectory frame.identity
    rw [← htarget]
    exact Station.sends_receive_of_asksReset hframe hasks
  · intro target _
    exact ⟨_, ControlRequest.decode_frame target 0 .reset false [], rfl⟩
  · intro device hlisted hsole
    rw [show target? = settings.resetTarget? frame.identity from rfl, Settings.resetTarget?,
      hlisted]
    exact lastIdentity?_of_sole hlisted hsole

/-! ### A sensor that is being replaced -/

theorem length_oldSensor : ([0x23, 0x8A, 0x08, 0x26, 0x23, 0x19] : Bytes).length = 6 := rfl

def oldSensor : Identity := ⟨[0x23, 0x8A, 0x08, 0x26, 0x23, 0x19], length_oldSensor⟩

def newSensor : Identity := ⟨[0x01, 0x02, 0x03, 0x04, 0x05, 0xFF], rfl⟩

/-- The old sensor and the new one, listed for one device. -/
def replacement : Settings :=
  { devices := [⟨"238A08262319", "oil"⟩, ⟨"0102030405FF", "oil"⟩] }

def replacementStation : Station :=
  { Station.empty "AsyncReporting" with
    directory := (Directory.empty.add oldSensor "oil").add newSensor "oil" }

def replacementGateway : Pipeline :=
  { station :=
      { replacementStation with
        store := (Store.empty.write "oil" Store.identityResource (.text "238A08262319")).write "oil"
          Store.identityResource (.text "0102030405FF") }
    engine := Engine.make 20000
    inbound := Queue.fresh 128
    pieces := Queue.fresh 100
    accepting := true
    intakeRuns := true
    shardsRun := true
    fault := none }

def resetWish (identity : Identity) : Frame :=
  Frame.make identity (Header.make 0 false .controlResponse) [0x0E]

theorem start_replacement :
    (Pipeline.start replacement replacementStation).2 = .ok replacementGateway := by
  decide +kernel

theorem directory_replacement : replacement.directory = .ok replacementStation.directory := by
  decide +kernel

theorem asksReset_resetWish (identity : Identity) : (resetWish identity).AsksReset :=
  ⟨rfl, rfl, [], rfl⟩

/-- The old sensor asks to be reset, and the new one is. -/
theorem resets_listed_replacement :
    let target? := replacement.resetTarget? oldSensor
    target? = some newSensor ∧
      Station.Sends replacementGateway.station
        (replacementGateway.station.receive (.raw (resetWish oldSensor).encode)).1
        [(newSensor, ControlRequest.resetBytes newSensor)] := by
  intro target?
  have htarget : target? = some newSensor := by decide +kernel
  have hframe : (Arrival.raw (resetWish oldSensor).encode).frame = .ok (resetWish oldSensor) :=
    Frame.decode_encode_make ..
  obtain ⟨hsends, -, -, -⟩ := Operated.resets_listed start_replacement directory_replacement .start
    hframe (asksReset_resetWish oldSensor)
  rw [show replacement.resetTarget? (resetWish oldSensor).identity = some newSensor from htarget]
    at hsends
  exact ⟨htarget, hsends⟩

/-- So it is not true that a sensor always resets itself. -/
theorem not_forall_resets_sender :
    ¬ ∀ (settings : Settings) (station : Station) (pipeline later : Pipeline) (arrival : Arrival)
        (frame : Frame) (target : Identity),
      (Pipeline.start settings station).2 = .ok pipeline →
        settings.directory = .ok station.directory → Operated pipeline later →
          arrival.frame = .ok frame → frame.AsksReset →
            Station.Sends later.station (later.station.receive arrival).1
              [(target, ControlRequest.resetBytes target)] →
            target = frame.identity := by
  intro hall
  have hsends : Station.Sends replacementGateway.station
      (replacementGateway.station.receive (.raw (resetWish oldSensor).encode)).1
      [(newSensor, ControlRequest.resetBytes newSensor)] :=
    ⟨by decide +kernel, by decide +kernel⟩
  have hsame := hall replacement replacementStation replacementGateway replacementGateway
    (.raw (resetWish oldSensor).encode) (resetWish oldSensor) newSensor start_replacement
    directory_replacement .start (Frame.decode_encode_make ..) (asksReset_resetWish oldSensor)
    hsends
  exact absurd hsame (by decide)

end Pipeline

end SensorGateway
