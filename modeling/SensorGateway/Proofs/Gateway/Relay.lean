import SensorGateway.Proofs.Gateway.Routing
import SensorGateway.Proofs.Shard.Delivery

/-!
# A shipment on its way through the gateway

The intake takes frames from the line and the shard task submits the pieces among them; a relay is
the two of them with the pieces in between. However their steps follow each other, a shipment that
comes in pieces leaves behind what its whole frame would have left (`relay_alike`). Up to the last
piece nothing has happened but that the date was written and every piece was acknowledged
(`InTransit`); with the last piece the whole frame is routed, and routing depends on nothing else.
-/

namespace SensorGateway

/-- The intake and the shard task without the bounds of their queues: what they act upon, and the
pieces on their way from one to the other, oldest first. -/
structure Relay where
  station : Station
  engine : Engine
  waiting : List Frame

namespace Relay

/-- A step of one of the tasks, at the time that the clock shows. -/
inductive Step where
  | receive (clock : Clock) (raw : Bytes)
  | join (clock : Clock)

/-- The intake handles a frame from the line, or the shard task submits the piece that has waited
longest and routes the frame that it completes. -/
def step (relay : Relay) : Step → Relay
  | .receive clock raw =>
    let (station, disposition) := { relay.station with clock }.handleRaw raw
    match disposition with
    | .fragment frame => { relay with station, waiting := relay.waiting ++ [frame] }
    | _ => { relay with station }
  | .join clock =>
    match relay.waiting with
    | [] => relay
    | frame :: waiting =>
      let (station, engine, submission) := { relay.station with clock }.submit relay.engine frame
      match submission.result with
      | .ok (some whole) => ⟨(station.handleReassembled whole).1, engine, waiting⟩
      | _ => ⟨station, engine, waiting⟩

def run (relay : Relay) (steps : List Step) : Relay :=
  steps.foldl step relay

def received (steps : List Step) : List Bytes :=
  steps.filterMap fun
    | .receive _ raw => some raw
    | .join _ => none

theorem run_eq_self {relay : Relay} (hwaiting : relay.waiting = []) {steps : List Step}
    (hreceived : received steps = []) : relay.run steps = relay := by
  induction steps with
  | nil => rfl
  | cons first rest ih =>
    cases first with
    | receive => simp [received] at hreceived
    | join clock =>
      have hstep : relay.step (.join clock) = relay := by
        simp only [step, hwaiting]
      rw [run, List.foldl_cons, hstep]
      exact ih hreceived

end Relay

theorem Station.submit_of_fragmented {station : Station} {engine : Engine} {frame : Frame}
    (hopen : engine.isShutDown = false) (hpiece : frame.fragmented = true) :
    station.submit engine frame =
      let processed := engine.table.process frame station.clock.now
      (station.send frame.identity (processed.2.ack.encode frame.identity),
        { engine with
          table := processed.1
          timers := Engine.adjust engine.timers frame.identity processed.2.timer },
        ⟨some processed.2.ack, .ok processed.2.completed, processed.2.progress⟩) := by
  simp [submit, Engine.submit, hopen, hpiece]

namespace Shipment

variable {shipment : Shipment} {station : Station} {device : String} {number : Nat}

def acknowledgement (shipment : Shipment) (number : Nat) : Identity × Bytes :=
  (shipment.identity,
    (ShardAck.accept (shipment.shard % 64) number).encode shipment.identity)

/-- The answer to the whole frame: a data status, if it is a business frame. -/
def status (shipment : Shipment) : List (Identity × Bytes) :=
  shipment.packetType.statusResponse?.toList.map fun response =>
    (shipment.identity,
      DataStatus.success.encode shipment.identity
        (Header.make shipment.paramCount false response))

/-! ### Frames from the line -/

theorem handleRaw_frame (hdevice : station.directory.device? shipment.identity = some device) :
    station.handleRaw (shipment.frame number).encode =
      (station.write device Store.lastDataResource (.i64 station.clock.nanoseconds),
        .fragment (shipment.frame number)) := by
  rw [Station.handleRaw, frame, header, Frame.decode_encode_make]
  exact Station.route_of_fragmented rfl hdevice

theorem handleRaw_whole (shipment : Shipment) (station : Station) :
    ∃ answered : Station, Station.Sends station answered shipment.status ∧
      (∃ line, answered = { station with line }) ∧
      station.handleRaw shipment.whole.encode = answered.route shipment.whole := by
  refine ⟨station.sendStatus shipment.identity (shipment.header false) .success, ?_, ?_, ?_⟩
  · simp only [Station.sendStatus, header, Header.make, status, Bool.false_eq_true, if_false]
    cases shipment.packetType.statusResponse? with
    | none => exact Station.sends_nil rfl
    | some response =>
      have hcount : shipment.paramCount % 16 % 16 = shipment.paramCount % 16 :=
        congrArg Header.paramCount
          (Header.make_paramCount_mod shipment.paramCount false shipment.packetType)
      dsimp only
      rw [hcount]
      exact Station.sends_send ..
  · rw [Station.sendStatus]
    split_ifs
    · exact ⟨station.line, rfl⟩
    · cases (shipment.header false).packetType.statusResponse? with
      | none => exact ⟨station.line, rfl⟩
      | some response => exact ⟨_, rfl⟩
  · rw [Station.handleRaw, whole, header, Frame.decode_encode_make]
    have hheader : (Frame.make shipment.identity
        (Header.make shipment.paramCount false shipment.packetType) shipment.payload).header =
          Header.make shipment.paramCount false shipment.packetType :=
      Header.make_paramCount_mod ..
    dsimp only
    rw [hheader]
    rfl

/-! ### Up to the last piece -/

/-- Pieces have been acknowledged, and nothing else has changed but clock and date. -/
structure Acknowledged (shipment : Shipment) (device : String) (before after : Station)
    (numbers : List Nat) : Prop where
  directory_eq : before.directory = after.directory
  sourceTag_eq : before.sourceTag = after.sourceTag
  reports_eq : before.reports = after.reports
  store : Store.AlmostSame device before.store after.store
  sends : Station.Sends before after (numbers.map shipment.acknowledgement)

/-- Pieces of a shipment have been joined and others wait, and no other trace is left. -/
structure InTransit (shipment : Shipment) (device : String) (station : Station) (relay : Relay)
    (joined pending : List Nat) : Prop where
  acknowledged : shipment.Acknowledged device station relay.station joined
  waiting_eq : relay.waiting = pending.map shipment.frame
  isShutDown_eq : relay.engine.isShutDown = false
  underway : ∃ deliveries : List (Frame × Time),
    deliveries.map Prod.fst = joined.map shipment.frame ∧
      shipment.Underway relay.engine.table deliveries

variable {relay : Relay} {joined pending : List Nat} {deliveries : List (Frame × Time)}

theorem inTransit_start {engine : Engine} (hopen : engine.isShutDown = false)
    (hnone : engine.table.assembly? shipment.identity = none) :
    shipment.InTransit device station ⟨station, engine, []⟩ [] [] :=
  ⟨⟨rfl, rfl, rfl, Store.AlmostSame.refl device station.store, Station.sends_nil rfl⟩, rfl, hopen,
    [], rfl, Or.inl ⟨rfl, hnone⟩⟩

theorem complete_iff (hdeliveries : deliveries.map Prod.fst = joined.map shipment.frame)
    (hjoined : ∀ number ∈ joined, number < shipment.pieces.length) :
    shipment.Complete deliveries ↔ ∀ number < shipment.pieces.length, number ∈ joined := by
  refine forall₂_congr fun number hlt => ?_
  constructor
  · rintro ⟨delivery, hmem, hcarries⟩
    have hframe : delivery.1 ∈ joined.map shipment.frame :=
      hdeliveries ▸ List.mem_map_of_mem hmem
    obtain ⟨found, hfound, heq⟩ := List.mem_map.mp hframe
    have hsame := (shipment.carries_frame (hjoined found hfound)).number_unique
      (heq ▸ hcarries)
    exact hsame ▸ hfound
  · intro hmem
    have hframe : shipment.frame number ∈ deliveries.map Prod.fst :=
      hdeliveries ▸ List.mem_map_of_mem hmem
    obtain ⟨delivery, hdelivery, heq⟩ := List.mem_map.mp hframe
    exact ⟨delivery, hdelivery, heq ▸ shipment.carries_frame hlt⟩

theorem InTransit.receive (h : shipment.InTransit device station relay joined pending)
    (hdevice : station.directory.device? shipment.identity = some device) (clock : Clock)
    (number : Nat) :
    shipment.InTransit device station
      (relay.step (.receive clock (shipment.frame number).encode)) joined
      (pending ++ [number]) := by
  obtain ⟨⟨hdirectory, htag, hreports, hstore, hsends⟩, hwaiting, hopen, hunderway⟩ := h
  have hknown : ({ relay.station with clock } : Station).directory.device? shipment.identity =
      some device := hdirectory ▸ hdevice
  simp only [Relay.step, handleRaw_frame hknown]
  refine ⟨⟨hdirectory, htag, hreports, hstore.write_right _, hsends.congr rfl rfl⟩, ?_, hopen,
    hunderway⟩
  rw [hwaiting, List.map_append]
  rfl

/-- The shard task takes a piece that is not the last one missing, or it takes that and the whole
frame is routed. -/
theorem InTransit.join
    (h : shipment.InTransit device station relay joined (number :: pending))
    (hnumbers : ∀ other ∈ joined ++ [number], other < shipment.pieces.length)
    (hfirst : joined = [] → number = 0) (clock : Clock) :
    ((∃ other < shipment.pieces.length, other ∉ joined ++ [number]) →
      shipment.InTransit device station (relay.step (.join clock)) (joined ++ [number]) pending) ∧
    ((∀ other < shipment.pieces.length, other ∈ joined ++ [number]) →
      ∃ answered, shipment.Acknowledged device station answered (joined ++ [number]) ∧
        (relay.step (.join clock)).station = (answered.route shipment.whole).1 ∧
        (relay.step (.join clock)).waiting = pending.map shipment.frame) := by
  obtain ⟨⟨hdirectory, htag, hreports, hstore, hsends⟩, hwaiting, hopen, deliveries, hdeliveries,
    hunderway⟩ := h
  have hcarries := shipment.carries_frame (hnumbers number (by simp))
  have hzero : deliveries = [] → number = 0 := by
    rintro rfl
    exact hfirst (List.map_eq_nil_iff.mp hdeliveries.symm)
  obtain ⟨hack, hlast, hmore⟩ := hunderway.process_carries hcarries hzero clock.now
  have hnext : (deliveries ++ [(shipment.frame number, clock.now)]).map Prod.fst =
      (joined ++ [number]).map shipment.frame := by
    simp [hdeliveries]
  rw [complete_iff hnext hnumbers] at hlast hmore
  -- the piece is acknowledged whether it is the last one or not
  have hacknowledged : shipment.Acknowledged device station
      (({ relay.station with clock } : Station).send shipment.identity
        (shipment.acknowledgement number).2) (joined ++ [number]) := by
    refine ⟨hdirectory, htag, hreports, hstore, ?_⟩
    rw [List.map_append]
    exact hsends.trans ((Station.sends_send { relay.station with clock } _ _).congr rfl rfl)
  rw [List.map_cons] at hwaiting
  constructor
  · rintro ⟨other, hlt, hmissing⟩
    obtain ⟨hnothing, hafter⟩ := hmore fun hall => hmissing (hall other hlt)
    simp only [Relay.step, hwaiting, hcarries.identity_eq, hack, hnothing,
      Station.submit_of_fragmented hopen hcarries.fragmented_eq]
    exact ⟨hacknowledged, rfl, hopen, _, hnext, hafter⟩
  · intro hall
    obtain ⟨hwhole, _⟩ := hlast hall
    simp only [Relay.step, hwaiting, hcarries.identity_eq, hack, hwhole,
      Station.submit_of_fragmented hopen hcarries.fragmented_eq, and_true]
    exact ⟨_, hacknowledged, rfl⟩

/-! ### The whole way -/

/-- From any point of the way on, once everything that is to come has come and nothing waits, the
whole frame has been routed. -/
theorem InTransit.run {order arriving : List Nat} {last : Nat} {steps : List Relay.Step}
    (h : shipment.InTransit device station relay joined pending)
    (hdevice : station.directory.device? shipment.identity = some device)
    (horder : joined ++ (pending ++ arriving) = order ++ [last])
    (hnumbers : ∀ number ∈ order ++ [last], number < shipment.pieces.length)
    (hfirst : (order ++ [last]).head? = some 0)
    (hmissing : ∃ number < shipment.pieces.length, number ∉ order)
    (hall : ∀ number < shipment.pieces.length, number ∈ order ++ [last])
    (hreceived : Relay.received steps =
      arriving.map fun number => (shipment.frame number).encode)
    (hwaiting : (relay.run steps).waiting = []) :
    ∃ answered, shipment.Acknowledged device station answered (order ++ [last]) ∧
      (relay.run steps).station = (answered.route shipment.whole).1 := by
  -- as long as the last one is to come, what has been joined is part of what came before it
  have hsplit : ∀ early late : List Nat, early ++ late = order ++ [last] → late ≠ [] →
      ∃ number < shipment.pieces.length, number ∉ early := by
    intro early late heq hne
    obtain ⟨number, hlt, habsent⟩ := hmissing
    refine ⟨number, hlt, fun hmem => habsent ?_⟩
    obtain ⟨middle, final, rfl⟩ := (List.eq_nil_or_concat' late).resolve_left hne
    rw [← List.append_assoc] at heq
    exact (List.append_inj' heq rfl).1 ▸ List.mem_append_left _ hmem
  induction steps generalizing relay joined pending arriving with
  | nil =>
    have harriving : arriving = [] := List.map_eq_nil_iff.mp hreceived.symm
    have hpending : pending = [] := List.map_eq_nil_iff.mp (h.waiting_eq.symm.trans hwaiting)
    obtain ⟨deliveries, hdeliveries, hunderway⟩ := h.underway
    rw [hpending, harriving, List.append_nil, List.append_nil] at horder
    subst horder
    exact absurd ((complete_iff hdeliveries hnumbers).mpr hall) hunderway.not_complete
  | cons first rest ih =>
    cases first with
    | receive clock raw =>
      cases arriving with
      | nil => simp [Relay.received] at hreceived
      | cons number arriving =>
        simp only [Relay.received, List.filterMap_cons, List.map_cons, List.cons.injEq]
          at hreceived
        obtain ⟨rfl, hreceived⟩ := hreceived
        exact ih (h.receive hdevice clock number) (by simpa using horder) hreceived hwaiting
    | join clock =>
      cases pending with
      | nil =>
        have hstep : relay.step (.join clock) = relay := by
          have hnone : relay.waiting = [] := h.waiting_eq
          simp only [Relay.step, hnone]
        rw [Relay.run, List.foldl_cons, hstep] at hwaiting ⊢
        exact ih h horder hreceived hwaiting
      | cons number pending =>
        have hnext : (joined ++ [number]) ++ (pending ++ arriving) = order ++ [last] := by
          rw [← horder]
          simp
        have hzero : joined = [] → number = 0 := by
          rintro rfl
          rw [← horder] at hfirst
          exact Option.some.inj hfirst
        obtain ⟨hmore, hdone⟩ := h.join
          (fun other hmem => hnumbers other (hnext ▸ List.mem_append_left _ hmem)) hzero clock
        by_cases hlate : pending ++ arriving = []
        · -- the last one: nothing happens in the steps that are left
          obtain ⟨rfl, rfl⟩ := List.append_eq_nil_iff.mp hlate
          rw [List.append_nil, List.append_nil] at hnext
          rw [hnext] at hdone
          obtain ⟨answered, hacknowledged, hstation, hnone⟩ := hdone hall
          have hrest : (relay.step (.join clock)).run rest = relay.step (.join clock) :=
            Relay.run_eq_self hnone hreceived
          exact ⟨answered, hacknowledged, (congrArg Relay.station hrest).trans hstation⟩
        · exact ih (hmore (hsplit _ _ hnext hlate)) hnext hreceived hwaiting

/-- **Fragmentation is transparent.** Whatever the order of the pieces after the first one, and
however intake and shard task take turns, the pieces of a shipment leave behind what its whole frame
leaves: the same store up to the date, the same reports and the same requests. Instead of the answer
to the whole frame each piece has got its own. -/
theorem relay_alike (shipment : Shipment) {engine : Engine}
    (hdevice : station.directory.device? shipment.identity = some device)
    (hopen : engine.isShutDown = false)
    (hnone : engine.table.assembly? shipment.identity = none) {order : List Nat} {last : Nat}
    (hnumbers : ∀ number ∈ order ++ [last], number < shipment.pieces.length)
    (hfirst : (order ++ [last]).head? = some 0)
    (hmissing : ∃ number < shipment.pieces.length, number ∉ order)
    (hall : ∀ number < shipment.pieces.length, number ∈ order ++ [last])
    {steps : List Relay.Step}
    (hreceived : Relay.received steps =
      (order ++ [last]).map fun number => (shipment.frame number).encode)
    (hwaiting : (Relay.run ⟨station, engine, []⟩ steps).waiting = []) (clock : Clock) :
    let single := ({ station with clock }.handleRaw shipment.whole.encode).1
    let relayed := (Relay.run ⟨station, engine, []⟩ steps).station
    Station.Alike device single relayed ∧
      ∃ requests, Station.Sends station single (shipment.status ++ requests) ∧
        Station.Sends station relayed
          ((order ++ [last]).map shipment.acknowledgement ++ requests) := by
  intro single relayed
  have horder : [] ++ ([] ++ (order ++ [last])) = order ++ [last] := rfl
  obtain ⟨answered, hacknowledged, hrelayed⟩ := (inTransit_start hopen hnone).run hdevice horder
    hnumbers hfirst hmissing hall hreceived hwaiting
  obtain ⟨received, hstatus, ⟨line, hreceivedEq⟩, hsingle⟩ :=
    handleRaw_whole shipment { station with clock }
  have hknown : received.directory.device? shipment.identity = some device := by
    rw [hreceivedEq]
    exact hdevice
  have hdirectory : received.directory = answered.directory := by
    rw [hreceivedEq]
    exact hacknowledged.directory_eq
  have htag : received.sourceTag = answered.sourceTag := by
    rw [hreceivedEq]
    exact hacknowledged.sourceTag_eq
  have hreports : received.reports = answered.reports := by
    rw [hreceivedEq]
    exact hacknowledged.reports_eq
  have hstore : Store.AlmostSame device received.store answered.store := by
    rw [hreceivedEq]
    exact hacknowledged.store
  have hwhole : shipment.whole.fragmented = false := rfl
  obtain ⟨halike, requests, hleft, hright⟩ :=
    Station.route_alike hwhole hknown hdirectory htag hreports hstore
  have hsingleEq : single = (received.route shipment.whole).1 := congrArg Prod.fst hsingle
  rw [hsingleEq, show relayed = (answered.route shipment.whole).1 from hrelayed]
  have hanswered : Station.Sends station received shipment.status := hstatus.congr rfl rfl
  exact ⟨halike, requests, hanswered.trans hleft, hacknowledged.sends.trans hright⟩

/-- Three pieces of an alarm from a known sensor: the last one overtakes the second, and both wait
when the shard task takes the first one. -/
theorem relay_alike_threePieces :
    let station : Station :=
      { Station.empty "AsyncReporting" with
        directory := Directory.empty.add threePieces.identity "substation" }
    let steps : List Relay.Step :=
      [.receive ⟨1, 5⟩ (threePieces.frame 0).encode, .receive ⟨2, 6⟩ (threePieces.frame 2).encode,
        .join ⟨3, 7⟩, .receive ⟨4, 8⟩ (threePieces.frame 1).encode, .join ⟨5, 9⟩, .join ⟨6, 10⟩]
    let single := ({ station with clock := ⟨1, 5⟩ }.handleRaw threePieces.whole.encode).1
    let relayed := (Relay.run ⟨station, Engine.make 20, []⟩ steps).station
    Station.Alike "substation" single relayed ∧
      ∃ requests, Station.Sends station single (threePieces.status ++ requests) ∧
        Station.Sends station relayed
          ([0, 2, 1].map threePieces.acknowledgement ++ requests) := by
  intro station steps
  have hreceived : Relay.received steps =
      ([0, 2] ++ [1]).map fun number => (threePieces.frame number).encode := rfl
  have hwaiting : (Relay.run ⟨station, Engine.make 20, []⟩ steps).waiting = [] := by
    decide +kernel
  exact relay_alike threePieces rfl rfl rfl (by decide) rfl (by decide) (by decide) hreceived
    hwaiting ⟨1, 5⟩

end Shipment

end SensorGateway
