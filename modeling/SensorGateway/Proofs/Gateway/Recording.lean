import Mathlib.Data.List.Induction
import SensorGateway.Proofs.Gateway.Treatment

/-!
# Stored and reported

A parameter list comes in a business frame, or in a control frame behind the control byte, and it is
treated alike in both (`receive_records`). What goes to the store and what goes into the report are
then the same values, the last one of every name, and where the list has nothing that can be read
there is no report at all.
-/

namespace SensorGateway

def Reading.lastValue? (readings : List Reading) (name : String) : Option Value :=
  (readings.reverse.find? fun reading => reading.name = name).map value

theorem Reading.lastValue?_concat (readings : List Reading) (last : Reading) (name : String) :
    lastValue? (readings ++ [last]) name =
      if name = last.name then some last.value else lastValue? readings name := by
  rw [lastValue?, List.reverse_append, List.reverse_singleton, List.singleton_append,
    List.find?_cons]
  by_cases hname : name = last.name
  · simp [hname]
  · simp [hname, Ne.symm hname, lastValue?]

namespace ValueMap

theorem ofAssignments_concat (assignments : List (String × Value)) (last : String × Value) :
    ofAssignments (assignments ++ [last]) = (ofAssignments assignments).insert last.1 last.2 :=
  List.foldl_concat ..

theorem unique_ofAssignments (assignments : List (String × Value)) :
    (ofAssignments assignments).Unique := by
  induction assignments using List.reverseRecOn with
  | nil => exact Keyed.unique_empty
  | append_singleton rest last ih =>
    rw [ofAssignments_concat]
    exact ih.insert last.1 last.2

theorem get?_ofAssignments (readings : List Reading) (name : String) :
    (ofAssignments (Reading.assignments readings)).get? name =
      Reading.lastValue? readings name := by
  unfold Reading.assignments
  induction readings using List.reverseRecOn with
  | nil => rfl
  | append_singleton rest last ih =>
    rw [List.map_append, List.map_singleton, ofAssignments_concat, Keyed.get?_insert,
      Reading.lastValue?_concat, ih]

end ValueMap

theorem Store.read?_writeAll_assignments (store : Store) (device : String)
    (readings : List Reading) (resource : String) :
    (store.writeAll device (Reading.assignments readings)).read? device resource =
      (Reading.lastValue? readings resource).or (store.read? device resource) := by
  unfold Reading.assignments writeAll
  induction readings using List.reverseRecOn with
  | nil => rfl
  | append_singleton rest last ih =>
    rw [List.map_append, List.map_singleton, List.foldl_concat, read?_write,
      Reading.lastValue?_concat, ih]
    by_cases hresource : resource = last.name <;> simp [hresource]

namespace Frame

/-- A control frame with the same parameter list as a business frame. -/
structure SameList (business control : Frame) : Prop where
  identity_eq : control.identity = business.identity
  paramCount_eq : control.paramCount = business.paramCount
  wholeBusiness : business.fragmented = false
  wholeControl : control.fragmented = false
  isBusiness : business.packetType.isBusiness = true
  isControl : control.packetType.isControl = true
  exists_payload : ∃ kind ∈ [ControlType.generalParameters, .monitoringData, .alarmParameters],
    ∃ set, control.payload = (ControlKey.mk kind.code set).toByte :: business.payload

variable {frame business control : Frame}

theorem parameters?_of_isBusiness (h : frame.packetType.isBusiness = true) :
    frame.parameters? = some frame.payload :=
  if_pos h

theorem SameList.parameters?_eq (h : SameList business control) :
    control.parameters? = some business.payload := by
  obtain ⟨kind, hkind, set, hpayload⟩ := h.exists_payload
  have hbusiness := PacketType.isBusiness_of_isControl h.isControl
  have hhandler : (ControlKey.mk kind.code set).handler? = some .commonParameters := by
    unfold ControlKey.handler?
    rw [ControlType.ofCode?_code]
    simp only [List.mem_cons, List.not_mem_nil, or_false] at hkind
    rcases hkind with rfl | rfl | rfl <;> rfl
  simp only [parameters?, hbusiness, h.isControl, hpayload, ControlKey.ofByte_toByte, hhandler,
    Bool.false_eq_true, if_false, if_true]

end Frame

namespace Station

variable {station before after : Station} {device : String} {frame business control : Frame}

/-- Readings of a device have been stored and reported, and nothing else has been. -/
structure Records (before after : Station) (device : String) (readings : List Reading)
    (values : ValueMap) : Prop where
  unique : values.Unique
  get?_eq : ∀ name, values.get? name = Reading.lastValue? readings name
  reports_eq : after.reports =
    if readings = [] then before.reports
    else before.reports.send ⟨device, before.sourceTag, values⟩
  read?_of_reported : ∀ name value, values.get? name = some value →
    after.store.read? device name = some value
  read?_of_not_reported : ∀ resource, values.get? resource = none →
    resource ≠ Store.lastDataResource →
      after.store.read? device resource = before.store.read? device resource
  values?_of_ne : ∀ other, other ≠ device →
    after.store.values? other = before.store.values? other

theorem store_recorded (station : Station) (device : String) (readings : List Reading) :
    (station.recorded device readings).store =
      station.store.writeAll device (Reading.assignments readings) := by
  unfold recorded
  cases readings with
  | nil => rfl
  | cons => rfl

theorem reports_recorded (station : Station) (device : String) (readings : List Reading) :
    (station.recorded device readings).reports =
      if readings = [] then station.reports
      else
        station.reports.send
          ⟨device, station.sourceTag, ValueMap.ofAssignments (Reading.assignments readings)⟩ := by
  unfold recorded
  cases readings with
  | nil => rfl
  | cons => rfl

theorem records_recorded (station : Station) (device : String) (readings : List Reading) :
    Records station ((station.dated device).recorded device readings) device readings
      (ValueMap.ofAssignments (Reading.assignments readings)) := by
  have hread : ∀ resource,
      ((station.dated device).recorded device readings).store.read? device resource =
        ((ValueMap.ofAssignments (Reading.assignments readings)).get? resource).or
          ((station.dated device).store.read? device resource) := by
    intro resource
    rw [store_recorded, Store.read?_writeAll_assignments, ValueMap.get?_ofAssignments]
  constructor
  case unique => exact ValueMap.unique_ofAssignments _
  case get?_eq => exact ValueMap.get?_ofAssignments readings
  case reports_eq => exact reports_recorded (station.dated device) device readings
  case read?_of_reported =>
    intro name value hvalue
    rw [hread, hvalue, Option.some_or]
  case read?_of_not_reported =>
    -- the date was written first, and nothing but the date
    intro resource hnone hresource
    rw [hread, hnone, Option.none_or, dated, write, Store.read?_write,
      if_neg fun heq => hresource heq.2]
  case values?_of_ne =>
    intro other hother
    rw [store_recorded, Store.values?_writeAll_of_ne _ _ hother]
    exact Store.values?_write_of_ne station.store _ _ hother

theorem Records.congr_left {origin : Station} {readings : List Reading} {values : ValueMap}
    (h : Records origin after device readings values) (hstore : origin.store = before.store)
    (hreports : origin.reports = before.reports) (htag : origin.sourceTag = before.sourceTag) :
    Records before after device readings values := by
  constructor
  case unique => exact h.unique
  case get?_eq => exact h.get?_eq
  case reports_eq =>
    rw [← hreports, ← htag]
    exact h.reports_eq
  case read?_of_reported => exact h.read?_of_reported
  case read?_of_not_reported =>
    rw [← hstore]
    exact h.read?_of_not_reported
  case values?_of_ne =>
    rw [← hstore]
    exact h.values?_of_ne

/-! ### Both routes -/

theorem route_of_parameters {list : Bytes} (hwhole : frame.fragmented = false)
    (hlist : frame.parameters? = some list)
    (hdevice : station.directory.device? frame.identity = some device) :
    (station.route frame).1 = (station.dated device).recorded device
      (ReadingList.decode list frame.paramCount.toNat).values := by
  rw [route_of_whole hwhole hdevice]
  unfold Frame.parameters? at hlist
  dsimp only
  split_ifs at hlist ⊢ with hbusiness hcontrol
  · cases hlist
    rfl
  · cases hpayload : frame.payload with
    | nil => simp [hpayload] at hlist
    | cons byte body =>
      simp only [hpayload] at hlist
      split_ifs at hlist with hhandler
      cases hlist
      exact handleControl_of_parameters hdevice hpayload hhandler

theorem exists_receive_of_parameters {arrival : Arrival} {list : Bytes}
    (hframe : arrival.frame = .ok frame) (hwhole : frame.fragmented = false)
    (hlist : frame.parameters? = some list)
    (hdevice : station.directory.device? frame.identity = some device) :
    ∃ line, (station.receive arrival).1 =
      (({ station with line } : Station).dated device).recorded device
        (ReadingList.decode list frame.paramCount.toNat).values := by
  obtain ⟨line, hanswered⟩ := sendAll_eq station arrival.status?.toList
  refine ⟨line, ?_⟩
  rw [receive_of_frame hframe, hanswered]
  exact route_of_parameters hwhole hlist hdevice

/-- **Report and store agree, whichever way a parameter list comes in.** -/
theorem receive_records {left right : Arrival} (hleft : left.frame = .ok business)
    (hright : right.frame = .ok control) (hlist : Frame.SameList business control)
    (hdevice : station.directory.device? business.identity = some device) (clock : Clock) :
    let readings := (ReadingList.decode business.payload business.paramCount.toNat).values
    let single := (station.receive left).1
    let other := (({ station with clock } : Station).receive right).1
    Store.SameUpToDate device single.store other.store ∧ single.reports = other.reports ∧
      ∃ values, Records station single device readings values ∧
        Records station other device readings values := by
  intro readings single other
  obtain ⟨line, hsingle⟩ := exists_receive_of_parameters hleft hlist.wholeBusiness
    (Frame.parameters?_of_isBusiness hlist.isBusiness) hdevice
  have hknown : ({ station with clock } : Station).directory.device? control.identity =
      some device := by
    rw [hlist.identity_eq]
    exact hdevice
  obtain ⟨otherLine, hother⟩ := exists_receive_of_parameters hright hlist.wholeControl
    hlist.parameters?_eq hknown
  rw [hlist.paramCount_eq] at hother
  have hdated : Alike device (({ station with line } : Station).dated device)
      (({ station with line := otherLine, clock } : Station).dated device) :=
    ⟨rfl, rfl, rfl, (Store.AlmostSame.refl device station.store).write_date _ _⟩
  have halike : Alike device single other := by
    rw [show single = _ from hsingle, show other = _ from hother]
    exact hdated.handleBusiness business
  refine ⟨halike.store, halike.reports_eq, ValueMap.ofAssignments (Reading.assignments readings),
    ?_, ?_⟩
  · rw [show single = _ from hsingle]
    exact (records_recorded _ device readings).congr_left rfl rfl rfl
  · rw [show other = _ from hother]
    exact (records_recorded _ device readings).congr_left rfl rfl rfl

/-- A power status that comes twice in one list, from the line and rebuilt from pieces. -/
theorem receive_records_powerStatus :
    let sensor : Identity := ⟨[0xAA, 0xBB, 0xCC, 0xDD, 0xEE, 0xFF], rfl⟩
    let list : Bytes := [0x85, 0x00, 0x01, 0x01, 0x85, 0x00, 0x01, 0x02]
    let business := Frame.make sensor (Header.make 2 false .monitoring) list
    let control := Frame.make sensor (Header.make 2 false .controlResponse) (0x03 :: list)
    let station : Station :=
      { Station.empty "AsyncReporting" with
        directory := Directory.empty.add sensor "transformer" }
    let single := (station.receive (.raw business.encode)).1
    let other := (({ station with clock := ⟨1, 2⟩ } : Station).receive (.reassembled control)).1
    Store.SameUpToDate "transformer" single.store other.store ∧ single.reports = other.reports ∧
      ∃ values : ValueMap, values.get? "PowerStatus" = some (.u8 2) ∧
        single.store.read? "transformer" "PowerStatus" = some (.u8 2) := by
  intro sensor list business control station
  have hlist : Frame.SameList business control :=
    ⟨rfl, rfl, rfl, rfl, rfl, rfl, .generalParameters, by decide, true, rfl⟩
  have hleft : (Arrival.raw business.encode).frame = .ok business := Frame.decode_encode_make ..
  have hright : (Arrival.reassembled control).frame = .ok control := rfl
  have hdevice : station.directory.device? business.identity = some "transformer" := rfl
  obtain ⟨hstore, hreports, values, hsingle, _⟩ :=
    receive_records hleft hright hlist hdevice ⟨1, 2⟩
  have hlast : values.get? "PowerStatus" = some (.u8 2) := by
    rw [hsingle.get?_eq]
    decide +kernel
  exact ⟨hstore, hreports, values, hlast, hsingle.read?_of_reported _ _ hlast⟩

end Station

end SensorGateway
