import SensorGateway.Gateway.Command
import SensorGateway.Proofs.Gateway.Treatment

/-!
# What traffic may touch

Anybody who reaches the line can send frames, so it matters what frames can do to the store. One
that is refused does nothing. One that is accepted changes the device of its sender and no other,
and of that device only what is open to traffic: three resources of the gateway's own, and the names
in the catalogue. The identity under which a device is commanded is none of these (this is a fact
about the catalogue, which has no parameter of that name), so however long the gateway runs,
whatever is asked of a device is asked of the same sensor as before (`traffic_contained`).
-/

namespace SensorGateway

theorem ReadingList.exists_parameter_of_mem {payload : Bytes} {count : Nat} {reading : Reading}
    (h : reading ∈ (decode payload count).values) :
    ∃ parameter ∈ Catalogue.parameters, parameter.name = reading.name := by
  obtain ⟨result, hresult, hvalue⟩ := List.mem_filterMap.mp h
  obtain ⟨item, _, rfl⟩ := List.mem_map.mp hresult
  cases item with
  | error failure => cases hvalue
  | ok entry =>
    simp only [Reading.ofItem, Reading.ofEntry] at hvalue
    cases hlookup : Catalogue.lookup? entry.typeCode with
    | none => simp [hlookup] at hvalue
    | some parameter =>
      cases hdecode : parameter.decode entry.data with
      | error failure => simp [hlookup, hdecode] at hvalue
      | ok value =>
        simp only [hlookup, hdecode, Option.some.injEq] at hvalue
        exact ⟨parameter, List.mem_of_find?_eq_some hlookup, by rw [← hvalue]⟩

namespace Store

def OpenToTraffic (resource : String) : Prop :=
  resource = lastDataResource ∨ resource = timestampResource ∨ resource = resetStatusResource ∨
    ∃ parameter ∈ Catalogue.parameters, parameter.name = resource

/-- Nothing has changed but resources of one device that are open to traffic. -/
structure TouchedAt (device : String) (before after : Store) : Prop where
  values?_eq : ∀ other, other ≠ device → after.values? other = before.values? other
  read?_eq : ∀ resource, ¬ OpenToTraffic resource →
    after.read? device resource = before.read? device resource

variable {device : String} {before after : Store}

theorem not_openToTraffic_identityResource : ¬ OpenToTraffic identityResource := by
  have hcatalogue : ∀ parameter ∈ Catalogue.parameters, parameter.name ≠ identityResource := by
    decide +kernel
  rintro (heq | heq | heq | ⟨parameter, hmem, heq⟩)
  · exact absurd heq (by decide)
  · exact absurd heq (by decide)
  · exact absurd heq (by decide)
  · exact hcatalogue parameter hmem heq

theorem TouchedAt.refl (device : String) (store : Store) : TouchedAt device store store :=
  ⟨fun _ _ => rfl, fun _ _ => rfl⟩

theorem TouchedAt.trans {later : Store} (h : TouchedAt device before after)
    (hmore : TouchedAt device after later) : TouchedAt device before later := by
  constructor
  · intro other hother
    exact (hmore.values?_eq other hother).trans (h.values?_eq other hother)
  · intro resource hclosed
    exact (hmore.read?_eq resource hclosed).trans (h.read?_eq resource hclosed)

theorem touchedAt_write (store : Store) (device : String) {resource : String}
    (hopen : OpenToTraffic resource) (value : Value) :
    TouchedAt device store (store.write device resource value) := by
  constructor
  · intro other hother
    exact values?_write_of_ne store resource value hother
  · intro other hclosed
    have hne : other ≠ resource := by
      rintro rfl
      exact hclosed hopen
    rw [read?_write, if_neg fun heq => hne heq.2]

theorem touchedAt_writeAll (store : Store) (device : String) {values : List (String × Value)}
    (hopen : ∀ entry ∈ values, OpenToTraffic entry.1) :
    TouchedAt device store (store.writeAll device values) := by
  unfold writeAll
  induction values generalizing store with
  | nil => exact TouchedAt.refl device store
  | cons entry rest ih =>
    obtain ⟨hentry, hrest⟩ := List.forall_mem_cons.mp hopen
    exact (touchedAt_write store device hentry entry.2).trans (ih _ hrest)

/-- Traffic leaves all devices under the identities that they had. -/
theorem TouchedAt.read?_identityResource (h : TouchedAt device before after) (other : String) :
    after.read? other identityResource = before.read? other identityResource := by
  by_cases hother : other = device
  · subst hother
    exact h.read?_eq identityResource not_openToTraffic_identityResource
  · rw [read?, read?, h.values?_eq other hother]

end Store

def Disposition.isAccepted : Disposition → Bool
  | .rejected _ | .unknownSensor _ => false
  | .fragment _ | .handled => true

namespace Station

variable {start station after : Station} {device : String} {frame : Frame}

/-! ### One arrival -/

theorem touchedAt_dated (station : Station) (device : String) :
    Store.TouchedAt device station.store (station.dated device).store :=
  Store.touchedAt_write station.store device (Or.inl rfl) _

theorem touchedAt_recorded (station : Station) (device : String) {readings : List Reading}
    (hnamed : ∀ reading ∈ readings,
      ∃ parameter ∈ Catalogue.parameters, parameter.name = reading.name) :
    Store.TouchedAt device station.store (station.recorded device readings).store := by
  have hopen : ∀ entry ∈ Reading.assignments readings, Store.OpenToTraffic entry.1 := by
    intro entry hentry
    obtain ⟨reading, hreading, rfl⟩ := List.mem_map.mp hentry
    exact Or.inr (Or.inr (Or.inr (hnamed reading hreading)))
  unfold recorded
  split_ifs
  · exact Store.TouchedAt.refl device station.store
  · exact Store.touchedAt_writeAll station.store device hopen

theorem Treatment.touchedAt {disposition : Disposition}
    (h : Treatment station device frame after disposition) :
    Store.TouchedAt device station.store after.store := by
  cases h with
  | piece | ignored | reset => exact Store.TouchedAt.refl device station.store
  | recorded list =>
    exact touchedAt_recorded station device fun _ => ReadingList.exists_parameter_of_mem
  | clock => exact Store.touchedAt_write station.store device (Or.inr (Or.inl rfl)) _
  | outcome => exact Store.touchedAt_write station.store device (Or.inr (Or.inr (Or.inl rfl))) _

theorem Treatment.isAccepted {disposition : Disposition}
    (h : Treatment station device frame after disposition) : disposition.isAccepted = true := by
  cases h <;> rfl

/-- What an arrival may have changed when it has been dealt with. -/
structure Footprint (station : Station) (arrival : Arrival) : Prop where
  of_refused : (station.receive arrival).2.isAccepted = false →
    (station.receive arrival).1.store = station.store ∧
      (station.receive arrival).1.reports = station.reports
  of_accepted : (station.receive arrival).2.isAccepted = true →
    ∃ frame device, arrival.frame = .ok frame ∧
      station.directory.device? frame.identity = some device ∧
        Store.TouchedAt device station.store (station.receive arrival).1.store

theorem footprint (station : Station) (arrival : Arrival) : Footprint station arrival := by
  obtain ⟨line, hanswered⟩ := sendAll_eq station arrival.status?.toList
  cases hframe : arrival.frame with
  | error failure =>
    have hrejected : station.receive arrival = ({ station with line }, .rejected failure) := by
      rw [receive_eq, hanswered, proceed, hframe]
    constructor
    · intro _
      rw [hrejected]
      exact ⟨rfl, rfl⟩
    · intro haccepted
      rw [hrejected] at haccepted
      cases haccepted
  | ok frame =>
    have hrouted : station.receive arrival = route { station with line } frame := by
      rw [receive_of_frame hframe, hanswered]
    cases hdevice : station.directory.device? frame.identity with
    | none =>
      have hunknown : station.receive arrival =
          ({ station with line }, .unknownSensor frame.identity) := by
        rw [hrouted, route, hdevice]
      constructor
      · intro _
        rw [hunknown]
        exact ⟨rfl, rfl⟩
      · intro haccepted
        rw [hunknown] at haccepted
        cases haccepted
    | some device =>
      have hknown : ({ station with line } : Station).directory.device? frame.identity =
          some device := hdevice
      have htreated := treatment_route hknown
      rw [← hrouted] at htreated
      constructor
      · intro hrefused
        rw [htreated.isAccepted] at hrefused
        cases hrefused
      · intro _
        exact ⟨frame, device, hframe, hdevice,
          (touchedAt_dated { station with line } device).trans htreated.touchedAt⟩

/-! ### Any number of arrivals -/

/-- Only arrivals have changed the store since then; anything else may have happened meanwhile. -/
inductive Course (start : Station) : Station → Prop where
  | start : Course start start
  | receive {station : Station} (h : Course start station) (arrival : Arrival) :
      Course start (station.receive arrival).1
  | elsewhere {station after : Station} (h : Course start station)
      (hstore : after.store = station.store) : Course start after

theorem read?_identityResource_receive (station : Station) (arrival : Arrival) (device : String) :
    (station.receive arrival).1.store.read? device Store.identityResource =
      station.store.read? device Store.identityResource := by
  have hfootprint := footprint station arrival
  cases haccepted : (station.receive arrival).2.isAccepted with
  | false => rw [(hfootprint.of_refused haccepted).1]
  | true =>
    obtain ⟨frame, sender, _, _, htouched⟩ := hfootprint.of_accepted haccepted
    exact htouched.read?_identityResource device

theorem Course.read?_identityResource (h : Course start station) (device : String) :
    station.store.read? device Store.identityResource =
      start.store.read? device Store.identityResource := by
  induction h with
  | start => rfl
  | receive _ arrival ih => exact (read?_identityResource_receive _ arrival device).trans ih
  | elsewhere _ hstore ih => rw [hstore, ih]

theorem Course.identity?_eq (h : Course start station) (device : String) :
    station.store.identity? device = start.store.identity? device := by
  rw [Store.identity?, Store.identity?, h.read?_identityResource device]

/-! ### Who is asked -/

/-- Every control request that has been sent names this sensor, and has been sent to it. -/
def AsksOnly (target? : Option Identity) (before after : Station) : Prop :=
  ∃ frames, Sends before after frames ∧
    ∀ sent ∈ frames, ∃ frame, Frame.decode sent.2 = .ok frame ∧
      (frame.packetType = .controlRequest → target? = some sent.1 ∧ frame.identity = sent.1)

theorem asksOnly_refl (target? : Option Identity) (station : Station) :
    AsksOnly target? station station :=
  ⟨[], sends_nil rfl, List.forall_mem_nil _⟩

theorem asksOnly_issue (station : Station) (device : String) (command : DeviceCommand) :
    AsksOnly (station.store.identity? device) station (station.issue device command).1 := by
  unfold issue
  cases station.store.contains device with
  | false => exact asksOnly_refl _ station
  | true =>
    cases htarget : station.store.identity? device with
    | none => exact asksOnly_refl _ station
    | some target =>
      cases hencode : (command.request station.clock.seconds).encode target with
      | error failure => simpa [hencode] using asksOnly_refl _ station
      | ok bytes =>
        simp only [hencode, Bool.not_true, Bool.false_eq_true, if_false]
        split_ifs
        · obtain ⟨count, set, body, _, rfl⟩ := ControlRequest.exists_writes_of_encode hencode
          refine ⟨_, sends_send station target _, ?_⟩
          rw [List.forall_mem_singleton]
          exact ⟨_, ControlRequest.decode_frame .., fun _ => ⟨rfl, rfl⟩⟩
        · exact asksOnly_refl _ station

theorem asksOnly_handleWrite (station : Station) (device resource : String) (value : Value) :
    AsksOnly (station.store.identity? device) station
      (station.handleWrite device resource value).1 := by
  unfold handleWrite
  cases DeviceCommand.ofResource resource with
  | error failure => exact asksOnly_refl _ station
  | ok command =>
    dsimp only
    split_ifs
    · exact asksOnly_refl _ station
    · exact asksOnly_issue station device command

theorem asksOnly_receive (station : Station) {arrival : Arrival}
    (hframe : arrival.frame = .ok frame)
    (hdevice : station.directory.device? frame.identity = some device) :
    AsksOnly (station.store.identity? device) station (station.receive arrival).1 := by
  obtain ⟨request, hsends, hmem⟩ := exists_request_receive station arrival
  refine ⟨arrival.status?.toList ++ request.toList, hsends, ?_⟩
  intro sent hsent
  rcases List.mem_append.mp hsent with hstatus | hasked
  · obtain ⟨status, identity, header, hreply⟩ :=
      Arrival.exists_reply?_of_mem_status? (Option.mem_toList.mp hstatus)
    obtain ⟨response, hresponse, rfl⟩ := DataStatus.of_mem_reply? hreply
    -- a data status is a response, and says nothing about who is asked
    refine ⟨_, Frame.decode_encode_make .., fun hcontrol => ?_⟩
    obtain rfl : response = .controlRequest := hcontrol
    simp at hresponse
  · obtain ⟨hbytes, asking, sender, hasking, _, hsender, htarget⟩ :=
      (hmem sent.1 sent.2).mp (Option.mem_toList.mp hasked)
    obtain rfl : frame = asking := Except.ok.inj (hframe.symm.trans hasking)
    obtain rfl : device = sender := Option.some.inj (hdevice.symm.trans hsender)
    refine ⟨ControlRequest.frame sent.1 0 .reset false [], ?_, fun _ => ⟨htarget, rfl⟩⟩
    rw [hbytes]
    exact ControlRequest.decode_frame ..

/-- Whatever is asked of a device is asked of the sensor that it had at the start. -/
structure KeepsAddress (start station : Station) (device : String) : Prop where
  read?_eq : station.store.read? device Store.identityResource =
    start.store.read? device Store.identityResource
  issue : ∀ command,
    AsksOnly (start.store.identity? device) station (station.issue device command).1
  handleWrite : ∀ resource value,
    AsksOnly (start.store.identity? device) station (station.handleWrite device resource value).1
  receive : ∀ arrival frame, arrival.frame = .ok frame →
    station.directory.device? frame.identity = some device →
      AsksOnly (start.store.identity? device) station (station.receive arrival).1

theorem Course.keepsAddress (h : Course start station) (device : String) :
    KeepsAddress start station device := by
  have hidentity := h.identity?_eq device
  constructor
  case read?_eq => exact h.read?_identityResource device
  case issue =>
    intro command
    rw [← hidentity]
    exact asksOnly_issue station device command
  case handleWrite =>
    intro resource value
    rw [← hidentity]
    exact asksOnly_handleWrite station device resource value
  case receive =>
    intro arrival frame hframe hdevice
    rw [← hidentity]
    exact asksOnly_receive station hframe hdevice

/-- **Frames cannot redirect a command.** An arrival changes nothing but what is open to traffic at
the device of its sender, and no number of them changes which sensor a device is commanded under. -/
theorem traffic_contained (start : Station) :
    (∀ arrival, Footprint start arrival) ∧
      ∀ station, Course start station → ∀ device, KeepsAddress start station device :=
  ⟨footprint start, fun _ hcourse device => hcourse.keepsAddress device⟩

/-- A transformer's sensor sends its power status, and afterwards the transformer is reset. -/
theorem traffic_contained_transformer :
    let sensor : Identity := ⟨[0xAA, 0xBB, 0xCC, 0xDD, 0xEE, 0xFF], rfl⟩
    let start : Station :=
      { Station.empty "AsyncReporting" with
        directory := Directory.empty.add sensor "transformer"
        store := Store.empty.write "transformer" Store.identityResource (.text "AABBCCDDEEFF") }
    let arrival : Arrival :=
      .raw (Frame.make sensor (Header.make 1 false .monitoring) [0x85, 0x00, 0x01, 0x01]).encode
    let station := (start.receive arrival).1
    Footprint start arrival ∧
      station.store.read? "transformer" "PowerStatus" = some (.u8 1) ∧
        (station.issue "transformer" .reset).2 = .ok (ControlRequest.resetBytes sensor) ∧
          KeepsAddress start station "transformer" := by
  intro sensor start arrival station
  obtain ⟨hfootprint, hcourse⟩ := traffic_contained start
  refine ⟨hfootprint arrival, by decide +kernel, by decide +kernel, ?_⟩
  exact hcourse station (.receive .start arrival) "transformer"

end Station

end SensorGateway
