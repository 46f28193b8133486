import SensorGateway.Gateway.Pipeline
import SensorGateway.Proofs.Gateway.Routing

/-!
# The steps of the two tasks

`IntakeMove` and `ShardMove` list what one step of the intake and of the shard task can do to a
pipeline, each with its condition; there is nothing else. Neither task looks at anything of the
station but the directory and the clock, and neither changes these. A task has no step only if it
has ended or waits for its own queue, so the intake never waits for the shard task.
-/

namespace SensorGateway

def Disposition.fragment? : Disposition → Option Frame
  | .fragment frame => some frame
  | _ => none

namespace Station

/-- The stations have the same sensors and clocks. -/
structure Keeps (before after : Station) : Prop where
  directory_eq : after.directory = before.directory
  clock_eq : after.clock = before.clock

variable {before station after : Station} {raw : Bytes} {frame : Frame}

theorem Keeps.refl (station : Station) : Keeps station station :=
  ⟨rfl, rfl⟩

theorem Keeps.trans (h : Keeps before station) (hmore : Keeps station after) :
    Keeps before after :=
  ⟨hmore.directory_eq.trans h.directory_eq, hmore.clock_eq.trans h.clock_eq⟩

theorem keeps_sendAll (station : Station) (frames : List (Identity × Bytes)) :
    Keeps station (station.sendAll frames) := by
  obtain ⟨line, hline⟩ := sendAll_eq station frames
  rw [hline]
  exact ⟨rfl, rfl⟩

theorem keeps_sendStatus (station : Station) (identity : Identity) (header : Header)
    (status : DataStatus) : Keeps station (station.sendStatus identity header status) := by
  unfold sendStatus
  split
  · exact Keeps.refl station
  · split
    · exact Keeps.refl station
    · exact ⟨rfl, rfl⟩

theorem keeps_handleBusiness (station : Station) (device : String) (frame : Frame) :
    Keeps station (station.handleBusiness device frame) := by
  simp only [handleBusiness]
  split_ifs
  · exact Keeps.refl station
  · exact ⟨rfl, rfl⟩

theorem keeps_handleControl (station : Station) (device : String) (frame : Frame) :
    Keeps station (station.handleControl device frame) := by
  unfold handleControl
  split
  · exact Keeps.refl station
  · dsimp only
    split
    · exact ⟨rfl, rfl⟩
    · refine Keeps.trans ?_ (keeps_sendAll _ _)
      split
      · split_ifs
        · exact ⟨rfl, rfl⟩
        · exact ⟨rfl, rfl⟩
      · exact ⟨rfl, rfl⟩

theorem keeps_route (station : Station) (frame : Frame) :
    Keeps station (station.route frame).1 := by
  unfold route
  split
  · exact Keeps.refl station
  · have hdated : ∀ device (value : Value),
        Keeps station (station.write device Store.lastDataResource value) :=
      fun _ _ => ⟨rfl, rfl⟩
    dsimp only
    split_ifs
    · exact hdated _ _
    · exact (hdated _ _).trans (keeps_handleBusiness _ _ _)
    · exact (hdated _ _).trans (keeps_handleControl _ _ _)
    · exact hdated _ _

theorem keeps_handleRaw (station : Station) (raw : Bytes) :
    Keeps station (station.handleRaw raw).1 := by
  unfold handleRaw
  split
  · dsimp only
    split
    · unfold rejectCorrupt
      split
      · exact Keeps.refl station
      · exact keeps_sendStatus _ _ _ _
    · exact Keeps.refl station
  · exact (keeps_sendStatus _ _ _ _).trans (keeps_route _ _)

theorem keeps_submit (station : Station) (engine : Engine) (frame : Frame) :
    Keeps station (station.submit engine frame).1 := by
  unfold submit
  dsimp only
  split
  · exact ⟨rfl, rfl⟩
  · exact Keeps.refl station

/-- The station after a piece has been answered, and the frame that it completes been routed. -/
def answered (station : Station) (engine : Engine) (frame : Frame) : Station :=
  let submitted := station.submit engine frame
  let whole? := submitted.2.2.result.toOption.join
  (whole?.map fun whole => (submitted.1.handleReassembled whole).1).getD submitted.1

theorem keeps_answered (station : Station) (engine : Engine) (frame : Frame) :
    Keeps station (station.answered engine frame) := by
  have hsubmitted := station.keeps_submit engine frame
  unfold answered
  dsimp only
  cases (station.submit engine frame).2.2.result.toOption.join with
  | none => exact hsubmitted
  | some whole => exact hsubmitted.trans (keeps_route _ whole)

theorem keeps_shutdown (station : Station) (engine : Engine) :
    Keeps station (station.shutdown engine).1 :=
  keeps_sendAll station _

/-! ### Pieces from the line -/

/-- The frame that a message from the line leaves to the shard engine. -/
def fragment? (station : Station) (raw : Bytes) : Option Frame :=
  (station.handleRaw raw).2.fragment?

theorem fragment?_route_of_whole (station : Station) (hwhole : frame.fragmented = false) :
    (station.route frame).2.fragment? = none := by
  rw [route, hwhole]
  cases station.directory.device? frame.identity with
  | none => rfl
  | some device =>
    simp only [Bool.false_eq_true, if_false]
    split_ifs <;> rfl

/-- It is a piece from a known sensor, and all that happens at once is that the date is written. -/
theorem fragment?_eq_some_iff :
    station.fragment? raw = some frame ↔
      Frame.decode raw = .ok frame ∧ frame.fragmented = true ∧
        ∃ device, station.directory.device? frame.identity = some device ∧
          station.handleRaw raw =
            (station.write device Store.lastDataResource (.i64 station.clock.nanoseconds),
              .fragment frame) := by
  constructor
  · intro h
    cases hdecode : Frame.decode raw with
    | error failure => simp [fragment?, handleRaw, hdecode, Disposition.fragment?] at h
    | ok received =>
      have hraw : station.handleRaw raw =
          (station.sendStatus received.identity received.header .success).route received := by
        simp [handleRaw, hdecode]
      have hdirectory := (keeps_sendStatus station received.identity received.header
        .success).directory_eq
      cases hdevice : station.directory.device? received.identity with
      | none => simp [fragment?, hraw, route, hdirectory, hdevice, Disposition.fragment?] at h
      | some device =>
        cases hpiece : received.fragmented with
        | false =>
          rw [fragment?, hraw, fragment?_route_of_whole _ hpiece] at h
          cases h
        | true =>
          -- a piece is acknowledged by the engine, so no status goes out here
          have hquiet : station.sendStatus received.identity received.header .success = station :=
            if_pos hpiece
          rw [hquiet, route_of_fragmented hpiece hdevice] at hraw
          rw [fragment?, hraw] at h
          obtain rfl : received = frame := Option.some.inj h
          exact ⟨rfl, hpiece, device, hdevice, hraw⟩
  · rintro ⟨_, _, device, _, hraw⟩
    rw [fragment?, hraw]
    rfl

/-- Which frames are left to the shard engine depends on nothing but the sensors that are known. -/
theorem fragment?_congr (hdirectory : before.directory = after.directory) (raw : Bytes) :
    before.fragment? raw = after.fragment? raw := by
  have hforward : ∀ {left right : Station} {frame : Frame},
      left.directory = right.directory → left.fragment? raw = some frame →
        right.fragment? raw = some frame := by
    intro left right frame hsame hleft
    obtain ⟨hdecode, hpiece, device, hdevice, _⟩ := fragment?_eq_some_iff.mp hleft
    rw [hsame] at hdevice
    have hquiet : right.sendStatus frame.identity frame.header .success = right := if_pos hpiece
    refine fragment?_eq_some_iff.mpr ⟨hdecode, hpiece, device, hdevice, ?_⟩
    rw [handleRaw, hdecode]
    dsimp only
    rw [hquiet, route_of_fragmented hpiece hdevice]
  apply Option.ext
  intro frame
  exact ⟨hforward hdirectory, hforward hdirectory.symm⟩

end Station

namespace Queue

variable {α : Type} {queue next : Queue α} {item : α}

theorem push?_eq_some_iff :
    queue.push? item = some next ↔ queue.items.length < queue.capacity ∧
      next = { queue with items := queue.items ++ [item] } := by
  simp only [push?, isFull, decide_eq_true_eq]
  split_ifs with hfull
  · simp [Nat.not_lt.mpr hfull]
  · simp [Nat.not_le.mp hfull, eq_comm]

theorem push?_eq_none_iff : queue.push? item = none ↔ queue.capacity ≤ queue.items.length := by
  simp [push?, isFull]

theorem pop?_eq_none_iff : queue.pop? = none ↔ queue.items = [] := by
  unfold pop?
  split <;> simp [*]

theorem pop?_eq_some_iff :
    queue.pop? = some (item, next) ↔ ∃ rest, queue.items = item :: rest ∧
      next = { queue with items := rest } := by
  unfold pop?
  split <;> simp [*, eq_comm]

end Queue

namespace Pipeline

variable {pipeline next : Pipeline}

inductive Started (settings : Settings) (station : Station) :
    Station × Except StartError Pipeline → Prop where
  | refused (cause : SettingsError) (hinvalid : settings.validate = .error cause) :
      Started settings station (station, .error (.refused (.invalidSettings cause)))
  | stopped (store : Store) (failure : Failure) (hvalid : settings.validate = .ok ())
      (hseed : seed station.store settings.devices = (store, .error failure)) :
      Started settings station ({ station with store }, .error (.refused failure))
  | tooDeep (store : Store) (hvalid : settings.validate = .ok ())
      (hseed : seed station.store settings.devices = (store, .ok ()))
      (hdeep : Queue.maximumCapacity < settings.inboundDepth ∨
        Queue.maximumCapacity < settings.shardDepth) :
      Started settings station
        ({ station with store, sourceTag := settings.sourceTag },
          .error (.fault .queueTooDeep))
  | running (store : Store) (hvalid : settings.validate = .ok ())
      (hseed : seed station.store settings.devices = (store, .ok ()))
      (hfits : settings.inboundDepth ≤ Queue.maximumCapacity ∧
        settings.shardDepth ≤ Queue.maximumCapacity) :
      Started settings station
        ({ station with store, sourceTag := settings.sourceTag },
          .ok
            { station := { station with store, sourceTag := settings.sourceTag }
              engine := Engine.make settings.timeout
              inbound := Queue.fresh settings.inboundDepth
              pieces := Queue.fresh settings.shardDepth
              accepting := true
              intakeRuns := true
              shardsRun := true
              fault := none })

theorem started (settings : Settings) (station : Station) :
    Started settings station (start settings station) := by
  unfold start
  cases hvalid : settings.validate with
  | error cause => exact .refused cause hvalid
  | ok =>
    cases hseed : seed station.store settings.devices with
    | mk store outcome =>
      cases outcome with
      | error failure => exact .stopped store failure hvalid hseed
      | ok =>
        dsimp only
        split_ifs with hdeep
        · exact .tooDeep store hvalid hseed hdeep
        · exact .running store hvalid hseed (by omega)

theorem exists_of_start {settings : Settings} {station : Station}
    (h : (start settings station).2 = .ok pipeline) :
    ∃ seeded, station.Keeps seeded ∧
      pipeline =
        { station := seeded
          engine := Engine.make settings.timeout
          inbound := Queue.fresh settings.inboundDepth
          pieces := Queue.fresh settings.shardDepth
          accepting := true
          intakeRuns := true
          shardsRun := true
          fault := none } := by
  have hstarted := started settings station
  cases hstart : start settings station with
  | mk after result =>
    rw [hstart] at h hstarted
    cases hstarted with
    | refused | stopped | tooDeep => cases h
    | running store =>
      rw [Except.ok.injEq] at h
      exact ⟨{ station with store, sourceTag := settings.sourceTag }, ⟨rfl, rfl⟩, h.symm⟩

theorem submit?_eq_ok_iff {raw : Bytes} :
    pipeline.submit? raw = some (.ok next) ↔
      pipeline.accepting = true ∧ pipeline.intakeRuns = true ∧
        pipeline.inbound.items.length < pipeline.inbound.capacity ∧
          next = { pipeline with
            inbound := { pipeline.inbound with items := pipeline.inbound.items ++ [raw] } } := by
  unfold submit?
  split_ifs with hclosed
  · simp only [Bool.or_eq_true, Bool.not_eq_true'] at hclosed
    rcases hclosed with hclosed | hclosed <;> simp [hclosed]
  · simp only [Bool.or_eq_true, Bool.not_eq_true', not_or, Bool.not_eq_false] at hclosed
    simp only [Option.map_eq_some_iff, Queue.push?_eq_some_iff, hclosed.1, hclosed.2, true_and,
      Except.ok.injEq]
    constructor
    · rintro ⟨_, ⟨hroom, rfl⟩, rfl⟩
      exact ⟨hroom, rfl⟩
    · rintro ⟨hroom, rfl⟩
      exact ⟨_, ⟨hroom, rfl⟩, rfl⟩

/-! ### The intake -/

inductive IntakeMove (pipeline : Pipeline) : Pipeline → Prop where
  | ended (hempty : pipeline.inbound.items = []) (hclosed : pipeline.accepting = false) :
      IntakeMove pipeline { pipeline with intakeRuns := false }
  | routed (raw : Bytes) (rest : List Bytes) (hraw : pipeline.inbound.items = raw :: rest)
      (hwhole : pipeline.station.fragment? raw = none) :
      IntakeMove pipeline
        { pipeline with
          station := (pipeline.station.handleRaw raw).1
          inbound := { pipeline.inbound with items := rest } }
  | passedOn (raw : Bytes) (rest : List Bytes) (frame : Frame)
      (hraw : pipeline.inbound.items = raw :: rest)
      (hpiece : pipeline.station.fragment? raw = some frame) (hruns : pipeline.shardsRun = true)
      (hroom : pipeline.pieces.items.length < pipeline.pieces.capacity) :
      IntakeMove pipeline
        { pipeline with
          station := (pipeline.station.handleRaw raw).1
          inbound := { pipeline.inbound with items := rest }
          pieces := { pipeline.pieces with items := pipeline.pieces.items ++ [frame] } }
  | dropped (raw : Bytes) (rest : List Bytes) (frame : Frame)
      (hraw : pipeline.inbound.items = raw :: rest)
      (hpiece : pipeline.station.fragment? raw = some frame) (hruns : pipeline.shardsRun = true)
      (hfull : pipeline.pieces.capacity ≤ pipeline.pieces.items.length) :
      IntakeMove pipeline
        { pipeline with
          station := (pipeline.station.handleRaw raw).1
          inbound := { pipeline.inbound with items := rest } }
  | stopped (raw : Bytes) (rest : List Bytes) (frame : Frame)
      (hraw : pipeline.inbound.items = raw :: rest)
      (hpiece : pipeline.station.fragment? raw = some frame) (hdown : pipeline.shardsRun = false) :
      IntakeMove pipeline
        { pipeline with
          station := (pipeline.station.handleRaw raw).1
          inbound := { pipeline.inbound with items := [] }
          intakeRuns := false }

theorem intakeStep?_of_nil (hempty : pipeline.inbound.items = []) :
    pipeline.intakeStep? =
      if pipeline.intakeRuns = true ∧ pipeline.accepting = false then
        some { pipeline with intakeRuns := false }
      else none := by
  rw [intakeStep?, Queue.pop?_eq_none_iff.mpr hempty]
  cases pipeline.intakeRuns <;> cases pipeline.accepting <;> rfl

theorem intakeStep?_of_cons {raw : Bytes} {rest : List Bytes}
    (hruns : pipeline.intakeRuns = true) (hraw : pipeline.inbound.items = raw :: rest) :
    pipeline.intakeStep? =
      let handled : Pipeline :=
        { pipeline with
          station := (pipeline.station.handleRaw raw).1
          inbound := { pipeline.inbound with items := rest } }
      some (((pipeline.station.fragment? raw).map handled.forward).getD handled) := by
  have hpop := Queue.pop?_eq_some_iff.mpr ⟨rest, hraw, rfl⟩
  simp only [intakeStep?, hpop, hruns, Bool.not_true, Bool.false_eq_true, if_false,
    Station.fragment?]
  cases pipeline.station.handleRaw raw with
  | mk station disposition => cases disposition <;> rfl

theorem intakeStep?_eq_none_iff :
    pipeline.intakeStep? = none ↔
      pipeline.intakeRuns = false ∨ pipeline.inbound.items = [] ∧ pipeline.accepting = true := by
  cases hruns : pipeline.intakeRuns with
  | false => simp [intakeStep?, hruns]
  | true =>
    cases hraw : pipeline.inbound.items with
    | nil => simp [intakeStep?_of_nil hraw, hruns]
    | cons raw rest => simp [intakeStep?_of_cons hruns hraw]

theorem intakeMove (h : pipeline.intakeStep? = some next) :
    pipeline.intakeRuns = true ∧ IntakeMove pipeline next := by
  have hruns : pipeline.intakeRuns = true := by
    by_contra hended
    rw [Bool.not_eq_true] at hended
    rw [intakeStep?_eq_none_iff.mpr (Or.inl hended)] at h
    cases h
  refine ⟨hruns, ?_⟩
  cases hraw : pipeline.inbound.items with
  | nil =>
    rw [intakeStep?_of_nil hraw] at h
    split_ifs at h with hclosed
    cases h
    exact .ended hraw hclosed.2
  | cons raw rest =>
    rw [intakeStep?_of_cons hruns hraw] at h
    cases hpiece : pipeline.station.fragment? raw with
    | none =>
      simp only [hpiece, Option.map_none, Option.getD_none] at h
      cases h
      exact .routed raw rest hraw hpiece
    | some frame =>
      simp only [hpiece, Option.map_some, Option.getD_some, forward, Option.some.injEq] at h
      cases hdown : pipeline.shardsRun with
      | false =>
        simp only [hdown, Bool.not_false, if_true] at h
        subst h
        simpa [Queue.emptied, hdown] using IntakeMove.stopped raw rest frame hraw hpiece hdown
      | true =>
        simp only [hdown, Bool.not_true, Bool.false_eq_true, if_false] at h
        cases hpush : pipeline.pieces.push? frame with
        | none =>
          simp only [hpush] at h
          subst h
          simpa [hdown] using
            IntakeMove.dropped raw rest frame hraw hpiece hdown (Queue.push?_eq_none_iff.mp hpush)
        | some pieces =>
          obtain ⟨hroom, rfl⟩ := Queue.push?_eq_some_iff.mp hpush
          simp only [hpush] at h
          subst h
          simpa [hdown] using IntakeMove.passedOn raw rest frame hraw hpiece hdown hroom

/-! ### The shard task -/

inductive ShardMove (pipeline : Pipeline) : Pipeline → Prop where
  | ended (hempty : pipeline.pieces.items = []) (hlast : pipeline.intakeRuns = false) :
      ShardMove pipeline { pipeline with shardsRun := false }
  | answered (frame : Frame) (rest : List Frame)
      (hframe : pipeline.pieces.items = frame :: rest) :
      ShardMove pipeline
        { pipeline with
          station := pipeline.station.answered pipeline.engine frame
          engine := (pipeline.engine.submit frame pipeline.station.clock.now).1
          pieces := { pipeline.pieces with items := rest } }
  | faulted (frame : Frame) (rest : List Frame) (deadline : Time)
      (hframe : pipeline.pieces.items = frame :: rest)
      (hprogress : (pipeline.engine.submit frame pipeline.station.clock.now).2.progress =
        some deadline)
      (hlate : Clock.limit ≤ deadline) :
      ShardMove pipeline
        { pipeline with
          pieces := { pipeline.pieces with items := [] }
          shardsRun := false
          fault := some .clockOverflow }

theorem shardStep?_of_nil (hempty : pipeline.pieces.items = []) :
    pipeline.shardStep? =
      if pipeline.shardsRun = true ∧ pipeline.intakeRuns = false then
        some { pipeline with shardsRun := false }
      else none := by
  rw [shardStep?, Queue.pop?_eq_none_iff.mpr hempty]
  cases pipeline.shardsRun <;> cases pipeline.intakeRuns <;> rfl

theorem shardStep?_of_cons {frame : Frame} {rest : List Frame}
    (hruns : pipeline.shardsRun = true) (hframe : pipeline.pieces.items = frame :: rest) :
    pipeline.shardStep? =
      let answer := pipeline.engine.submit frame pipeline.station.clock.now
      some
        (if answer.2.progress.any fun deadline => Clock.limit ≤ deadline then
          { pipeline with
            pieces := { pipeline.pieces with items := [] }
            shardsRun := false
            fault := some .clockOverflow }
        else
          { pipeline with
            station := pipeline.station.answered pipeline.engine frame
            engine := answer.1
            pieces := { pipeline.pieces with items := rest } }) := by
  have hpop := Queue.pop?_eq_some_iff.mpr ⟨rest, hframe, rfl⟩
  simp only [shardStep?, hpop, hruns, Bool.not_true, Bool.false_eq_true, if_false,
    Station.answered, Station.submit, Queue.emptied]
  rcases (pipeline.engine.submit frame pipeline.station.clock.now).2.result with _ | (_ | whole)
  all_goals split_ifs <;> rfl

theorem shardStep?_eq_none_iff :
    pipeline.shardStep? = none ↔
      pipeline.shardsRun = false ∨ pipeline.pieces.items = [] ∧ pipeline.intakeRuns = true := by
  cases hruns : pipeline.shardsRun with
  | false => simp [shardStep?, hruns]
  | true =>
    cases hframe : pipeline.pieces.items with
    | nil => simp [shardStep?_of_nil hframe, hruns]
    | cons frame rest =>
      simp [shardStep?_of_cons hruns hframe]

theorem shardMove (h : pipeline.shardStep? = some next) :
    pipeline.shardsRun = true ∧ ShardMove pipeline next := by
  have hruns : pipeline.shardsRun = true := by
    by_contra hended
    rw [Bool.not_eq_true] at hended
    rw [shardStep?_eq_none_iff.mpr (Or.inl hended)] at h
    cases h
  refine ⟨hruns, ?_⟩
  cases hframe : pipeline.pieces.items with
  | nil =>
    rw [shardStep?_of_nil hframe] at h
    split_ifs at h with hlast
    cases h
    exact .ended hframe hlast.2
  | cons frame rest =>
    rw [shardStep?_of_cons hruns hframe, Option.some.injEq] at h
    split_ifs at h with hlate
    · subst h
      cases hprogress : (pipeline.engine.submit frame pipeline.station.clock.now).2.progress with
      | none => simp [hprogress] at hlate
      | some deadline =>
        rw [hprogress, Option.any_some, decide_eq_true_eq] at hlate
        exact .faulted frame rest deadline hframe hprogress hlate
    · subst h
      exact .answered frame rest hframe

/-! ### Running a task to its end -/

end Pipeline

end SensorGateway
