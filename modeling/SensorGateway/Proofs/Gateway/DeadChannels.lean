import SensorGateway.Proofs.Gateway.Treatment

/-!
# Channels that nobody receives from

The gateway does not look at what becomes of the frames it sends and of the reports it makes. So two
runs with the same operations go the same way even if at some moment the line or the taker of
reports is lost in one of them, and whatever the wall clock shows in either: both give the same
answers and hold the same reassemblies and timers, and their stores differ at most in the times of
the last frames. A channel that is not lost has been given the same in both runs; a lost one has
been given the first part of it.
-/

namespace SensorGateway

namespace Channel

variable {α : Type} {full cut : Channel α}

/-- The second channel has been given what the first one has, or only the first part of it because
it is closed. -/
structure Outlives (full cut : Channel α) : Prop where
  eq_of_isOpen : cut.isOpen = true → cut = full
  isPrefix : cut.delivered <+: full.delivered

theorem Outlives.refl (channel : Channel α) : channel.Outlives channel :=
  ⟨fun _ => rfl, List.prefix_rfl⟩

theorem delivered_prefix_send (channel : Channel α) (item : α) :
    channel.delivered <+: (channel.send item).delivered := by
  rw [send]
  split_ifs
  · exact List.prefix_append ..
  · exact List.prefix_rfl

theorem Outlives.send (h : full.Outlives cut) (item : α) :
    (full.send item).Outlives (cut.send item) := by
  cases hopen : cut.isOpen with
  | true =>
    rw [h.eq_of_isOpen hopen]
    exact refl _
  | false =>
    have hcut : cut.send item = cut := by simp [Channel.send, hopen]
    rw [hcut]
    refine ⟨fun hstill => ?_, h.isPrefix.trans (full.delivered_prefix_send item)⟩
    rw [hopen] at hstill
    cases hstill

theorem Outlives.close_right (h : full.Outlives cut) : full.Outlives cut.close :=
  ⟨fun hopen => Bool.noConfusion hopen, h.isPrefix⟩

theorem Outlives.close (h : full.Outlives cut) : full.close.Outlives cut.close :=
  ⟨fun hopen => Bool.noConfusion hopen, h.isPrefix⟩

end Channel

namespace Store

variable {left right : Store} {device : String}

/-- The stores know the same devices and hold the same, but for the times of last frames. -/
structure SameUpToDates (left right : Store) : Prop where
  contains_eq : ∀ device, left.contains device = right.contains device
  read?_eq : ∀ device resource, resource ≠ lastDataResource →
    left.read? device resource = right.read? device resource
  isSome_eq : ∀ device,
    (left.read? device lastDataResource).isSome = (right.read? device lastDataResource).isSome

theorem SameUpToDates.refl (store : Store) : SameUpToDates store store :=
  ⟨fun _ => rfl, fun _ _ _ => rfl, fun _ => rfl⟩

theorem SameUpToDates.write (h : SameUpToDates left right) (device resource : String)
    (value : Value) :
    SameUpToDates (left.write device resource value) (right.write device resource value) := by
  constructor
  · intro other
    rw [contains_write, contains_write, h.contains_eq other]
  · intro other otherResource hresource
    rw [read?_write, read?_write, h.read?_eq other otherResource hresource]
  · intro other
    rw [read?_write, read?_write]
    split_ifs
    · rfl
    · exact h.isSome_eq other

theorem SameUpToDates.write_date (h : SameUpToDates left right) (device : String)
    (date other : Value) :
    SameUpToDates (left.write device lastDataResource date)
      (right.write device lastDataResource other) := by
  constructor
  · intro otherDevice
    rw [contains_write, contains_write, h.contains_eq otherDevice]
  · intro otherDevice resource hresource
    rw [read?_write, read?_write, if_neg fun heq => hresource heq.2,
      if_neg fun heq => hresource heq.2]
    exact h.read?_eq otherDevice resource hresource
  · intro otherDevice
    rw [read?_write, read?_write]
    split_ifs
    · rfl
    · exact h.isSome_eq otherDevice

theorem SameUpToDates.identity?_eq (h : SameUpToDates left right) (device : String) :
    left.identity? device = right.identity? device := by
  have hresource : identityResource ≠ lastDataResource := by decide
  rw [identity?, identity?, h.read?_eq device identityResource hresource]

end Store

namespace Station

/-! ### Two stations of which one may have lost its channels -/

/-- The second station is the first one but for lost channels, the wall clock and what it dated. -/
structure Outlives (calm troubled : Station) : Prop where
  directory_eq : troubled.directory = calm.directory
  sourceTag_eq : troubled.sourceTag = calm.sourceTag
  now_eq : troubled.clock.now = calm.clock.now
  store : calm.store.SameUpToDates troubled.store
  line : calm.line.Outlives troubled.line
  reports : calm.reports.Outlives troubled.reports

variable {calm troubled : Station} {frame : Frame}

theorem Outlives.refl (station : Station) : station.Outlives station :=
  ⟨rfl, rfl, rfl, .refl _, .refl _, .refl _⟩

section Operations

variable (h : calm.Outlives troubled)
include h

theorem Outlives.dated (device : String) : (calm.dated device).Outlives (troubled.dated device) :=
  { h with store := h.store.write_date device _ _ }

theorem Outlives.report (device : String) (values : ValueMap) :
    (calm.report device values).Outlives (troubled.report device values) := by
  refine { h with reports := ?_ }
  rw [Station.report, Station.report, h.sourceTag_eq]
  exact h.reports.send _

theorem Outlives.sendAt (moment : Time) (target : Identity) (bytes : Bytes) :
    (calm.sendAt moment target bytes).Outlives (troubled.sendAt moment target bytes) :=
  { h with line := h.line.send _ }

theorem Outlives.send (target : Identity) (bytes : Bytes) :
    (calm.send target bytes).Outlives (troubled.send target bytes) := by
  rw [Station.send, Station.send, h.now_eq]
  exact h.sendAt _ target bytes

omit h in
theorem isCongruence_outlives : IsCongruence Outlives where
  directory_eq h := h.directory_eq.symm
  identity?_eq h := h.store.identity?_eq
  write h device resource value := { h with store := h.store.write device resource value }
  report h := h.report
  send h := h.send

theorem Outlives.route (frame : Frame) :
    (calm.route frame).1.Outlives (troubled.route frame).1 ∧
      (calm.route frame).2 = (troubled.route frame).2 := by
  simp only [Station.route, h.directory_eq]
  cases calm.directory.device? frame.identity with
  | none => exact ⟨h, rfl⟩
  | some device =>
    have hdated := h.dated device
    dsimp only
    split_ifs
    · exact ⟨hdated, rfl⟩
    · exact ⟨isCongruence_outlives.handleBusiness hdated device frame, rfl⟩
    · exact ⟨isCongruence_outlives.handleControl hdated device frame, rfl⟩
    · exact ⟨hdated, rfl⟩

theorem Outlives.receive (arrival : Arrival) :
    (calm.receive arrival).1.Outlives (troubled.receive arrival).1 ∧
      (calm.receive arrival).2 = (troubled.receive arrival).2 := by
  have hanswered := isCongruence_outlives.sendAll h arrival.status?.toList
  rw [receive_eq, receive_eq, proceed, proceed]
  cases arrival.frame with
  | error failure => exact ⟨hanswered, rfl⟩
  | ok frame => exact hanswered.route frame

theorem Outlives.submit (engine : Engine) (frame : Frame) :
    (calm.submit engine frame).1.Outlives (troubled.submit engine frame).1 ∧
      (calm.submit engine frame).2 = (troubled.submit engine frame).2 := by
  rw [Station.submit, Station.submit, h.now_eq]
  refine ⟨?_, rfl⟩
  dsimp only
  cases (engine.submit frame calm.clock.now).2.ack with
  | none => exact h
  | some ack => exact h.send _ _

theorem Outlives.notices (answers : List (Time × Identity × ShardAck)) :
    Outlives
      (answers.foldl (fun station (moment, identity, ack) =>
        station.sendAt moment identity (ack.encode identity)) calm)
      (answers.foldl (fun station (moment, identity, ack) =>
        station.sendAt moment identity (ack.encode identity)) troubled) := by
  induction answers generalizing calm troubled with
  | nil => exact h
  | cons answer rest ih => exact ih (h.sendAt answer.1 answer.2.1 _)

theorem Outlives.advance (engine : Engine) (duration : Time) :
    (calm.advance engine duration).1.Outlives (troubled.advance engine duration).1 ∧
      (calm.advance engine duration).2 = (troubled.advance engine duration).2 := by
  rw [Station.advance, Station.advance, h.now_eq]
  exact ⟨{ h.notices _ with now_eq := rfl }, rfl⟩

theorem Outlives.shutdown (engine : Engine) :
    (calm.shutdown engine).1.Outlives (troubled.shutdown engine).1 ∧
      (calm.shutdown engine).2 = (troubled.shutdown engine).2 :=
  ⟨isCongruence_outlives.sendAll h _, rfl⟩

end Operations

end Station

/-! ### Runs -/

structure Installation where
  station : Station
  engine : Engine

namespace Installation

inductive Operation where
  | receive (arrival : Arrival)
  | submit (frame : Frame)
  | advance (duration : Time)
  | shutdown

inductive Answer where
  | disposition (disposition : Disposition)
  | submission (submission : Submission)
  | nothing

/-- An operation and its circumstances: what the wall clock shows, and whether one of the channels
is lost before it. -/
structure Turn where
  operation : Operation
  date : Int
  losesLine : Bool
  losesReports : Bool

/-- Up to circumstances the turns are the same, and the second one loses at least what the first one
does. -/
structure Turn.Outlives (calm troubled : Turn) : Prop where
  operation_eq : troubled.operation = calm.operation
  line : calm.losesLine = true → troubled.losesLine = true
  reports : calm.losesReports = true → troubled.losesReports = true

def perform (installation : Installation) : Operation → Installation × Answer
  | .receive arrival =>
    let (station, disposition) := installation.station.receive arrival
    ({ installation with station }, .disposition disposition)
  | .submit frame =>
    let (station, engine, submission) := installation.station.submit installation.engine frame
    (⟨station, engine⟩, .submission submission)
  | .advance duration =>
    let (station, engine) := installation.station.advance installation.engine duration
    (⟨station, engine⟩, .nothing)
  | .shutdown =>
    let (station, engine) := installation.station.shutdown installation.engine
    (⟨station, engine⟩, .nothing)

def meet (installation : Installation) (turn : Turn) : Installation :=
  let station := installation.station
  { installation with
    station :=
      { station with
        clock := { station.clock with date := turn.date }
        line := if turn.losesLine then station.line.close else station.line
        reports := if turn.losesReports then station.reports.close else station.reports } }

def run (installation : Installation) : List Turn → Installation × List Answer
  | [] => (installation, [])
  | turn :: rest =>
    let (next, answer) := (installation.meet turn).perform turn.operation
    let (last, answers) := next.run rest
    (last, answer :: answers)

structure Outlives (calm troubled : Installation) : Prop where
  station : calm.station.Outlives troubled.station
  engine_eq : troubled.engine = calm.engine

variable {calm troubled : Installation}

theorem Outlives.meet (h : calm.Outlives troubled) {turn other : Turn}
    (hturn : turn.Outlives other) : (calm.meet turn).Outlives (troubled.meet other) := by
  have hchannel : ∀ {α : Type} {full cut : Channel α} {loses losesToo : Bool},
      full.Outlives cut → (loses = true → losesToo = true) →
        (if loses then full.close else full).Outlives (if losesToo then cut.close else cut) := by
    intro α full cut loses losesToo hchannel hloses
    cases loses with
    | true =>
      rw [hloses rfl]
      exact hchannel.close
    | false =>
      cases losesToo with
      | true => exact hchannel.close_right
      | false => exact hchannel
  refine ⟨?_, h.engine_eq⟩
  exact { h.station with
    line := hchannel h.station.line hturn.line
    reports := hchannel h.station.reports hturn.reports }

theorem Outlives.perform (h : calm.Outlives troubled) (operation : Operation) :
    (calm.perform operation).1.Outlives (troubled.perform operation).1 ∧
      (calm.perform operation).2 = (troubled.perform operation).2 := by
  cases operation with
  | receive arrival =>
    obtain ⟨hstation, hdisposition⟩ := h.station.receive arrival
    exact ⟨⟨hstation, h.engine_eq⟩, congrArg Answer.disposition hdisposition⟩
  | submit frame =>
    obtain ⟨hstation, hrest⟩ := h.station.submit calm.engine frame
    rw [Installation.perform, Installation.perform, h.engine_eq]
    exact ⟨⟨hstation, congrArg Prod.fst hrest.symm⟩,
      congrArg (fun rest => Answer.submission rest.2) hrest⟩
  | advance duration =>
    obtain ⟨hstation, hengine⟩ := h.station.advance calm.engine duration
    rw [Installation.perform, Installation.perform, h.engine_eq]
    exact ⟨⟨hstation, hengine.symm⟩, rfl⟩
  | shutdown =>
    obtain ⟨hstation, hengine⟩ := h.station.shutdown calm.engine
    rw [Installation.perform, Installation.perform, h.engine_eq]
    exact ⟨⟨hstation, hengine.symm⟩, rfl⟩

theorem Outlives.run (h : calm.Outlives troubled) {turns others : List Turn}
    (hturns : List.Forall₂ Turn.Outlives turns others) :
    (calm.run turns).1.Outlives (troubled.run others).1 ∧
      (calm.run turns).2 = (troubled.run others).2 := by
  induction hturns generalizing calm troubled with
  | nil => exact ⟨h, rfl⟩
  | cons hturn _ ih =>
    rename_i turn other rest more _
    obtain ⟨hnext, hanswer⟩ := (h.meet hturn).perform turn.operation
    rw [Installation.run, Installation.run, hturn.operation_eq]
    obtain ⟨hlast, hanswers⟩ := ih hnext
    exact ⟨hlast, congrArg₂ List.cons hanswer hanswers⟩

/-- **Nobody need be listening.** When the line or the taker of reports is lost, everything but what
goes into the lost channel stays as it would have been. -/
theorem dead_channels (start : Installation) {calm troubled : List Turn}
    (h : List.Forall₂ Turn.Outlives calm troubled) :
    (start.run troubled).2 = (start.run calm).2 ∧
      (start.run troubled).1.engine = (start.run calm).1.engine ∧
      (start.run calm).1.station.store.SameUpToDates (start.run troubled).1.station.store ∧
      (start.run calm).1.station.line.Outlives (start.run troubled).1.station.line ∧
      (start.run calm).1.station.reports.Outlives (start.run troubled).1.station.reports := by
  have hstart : start.Outlives start := ⟨.refl _, rfl⟩
  obtain ⟨⟨hstation, hengine⟩, hanswers⟩ := hstart.run h
  exact ⟨hanswers.symm, hengine, hstation.store, hstation.line, hstation.reports⟩

def meter : Identity := ⟨[0xB0, 0, 0, 0, 0, 8], rfl⟩

def meterStart : Installation :=
  { station := { Station.empty "" with directory := Directory.empty.add meter "gas" }
    engine := Engine.make 20 }

/-- A temperature, the first piece of a shard, the temperature again, and time enough to give the
shard up. -/
def meterTurns (losesChannels : Bool) (date : Int) : List Turn :=
  let reading := Frame.make meter (Header.make 1 false .monitoring) [0x14, 0, 0, 0, 0xAC, 0x41]
  let piece := Frame.make meter (Header.make 1 true .alarm) [7, 0, 1, 0, 1]
  [⟨.receive (.raw reading.encode), date, false, false⟩, ⟨.submit piece, date, false, false⟩,
    ⟨.receive (.raw reading.encode), date, losesChannels, losesChannels⟩,
    ⟨.advance 20, date, false, false⟩]

theorem dead_channels_meter :
    let calm := (meterStart.run (meterTurns false 5)).1
    let troubled := (meterStart.run (meterTurns true 7)).1
    List.Forall₂ Turn.Outlives (meterTurns false 5) (meterTurns true 7) ∧
      troubled.engine = calm.engine ∧
      calm.station.store.SameUpToDates troubled.station.store ∧
      (calm.station.line.delivered.length, troubled.station.line.delivered.length) = (4, 2) ∧
      (calm.station.reports.delivered.length, troubled.station.reports.delivered.length) =
        (2, 1) := by
  have hturns : List.Forall₂ Turn.Outlives (meterTurns false 5) (meterTurns true 7) := by
    refine .cons ?_ (.cons ?_ (.cons ?_ (.cons ?_ .nil)))
    all_goals exact ⟨rfl, by simp, by simp⟩
  obtain ⟨-, hengine, hstore, -⟩ := dead_channels meterStart hturns
  exact ⟨hturns, hengine, hstore, by decide +kernel, by decide +kernel⟩

end Installation

end SensorGateway
