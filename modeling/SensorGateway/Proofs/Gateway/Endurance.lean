import SensorGateway.Proofs.Envelope
import SensorGateway.Proofs.Gateway.Interleaving

/-!
# What settings can bring the gateway down

Valid settings are not refused, but they may ask for more than the platform can do. A queue may be
too deep to be made, and then there is no gateway; nothing else keeps a gateway with valid settings
from starting. A timeout may be so long that a deadline lies beyond the end of the clock, and then
the first piece that sets one brings the shard task down, and the next piece the intake. Until the
clock comes that close to its end the gateway takes every frame, at once or after the next step of
the intake.
-/

namespace SensorGateway

namespace Settings

variable {settings : Settings}

/-- The queues are no deeper than the platform can make them. -/
def Fits (settings : Settings) : Prop :=
  settings.inboundDepth ≤ Queue.maximumCapacity ∧ settings.shardDepth ≤ Queue.maximumCapacity

theorem validate_eq_ok_iff :
    settings.validate = .ok () ↔
      settings.timeoutSeconds ≠ 0 ∧ settings.inboundDepth ≠ 0 ∧ settings.shardDepth ≠ 0 ∧
        checkDevices settings.devices = .ok () := by
  unfold validate
  split_ifs with htimeout hdepths
  · simp [htimeout]
  · simp only [false_iff]
    exact fun h => absurd hdepths (not_or.mpr ⟨h.2.1, h.2.2.1⟩)
  · rw [not_or] at hdepths
    simp [htimeout, hdepths.1, hdepths.2]

end Settings

namespace Pipeline

variable {settings : Settings} {pipeline : Pipeline}

theorem exists_seed_eq {mappings : List DeviceMapping}
    (h : Settings.checkDevices mappings = .ok ()) (store : Store) :
    ∃ after, seed store mappings = (after, .ok ()) := by
  induction mappings generalizing store with
  | nil => exact ⟨store, rfl⟩
  | cons mapping rest ih =>
    unfold Settings.checkDevices at h
    unfold seed
    cases hparse : Identity.parse mapping.identity with
    | error cause =>
      rw [hparse] at h
      cases h
    | ok identity =>
      rw [hparse] at h
      exact ih h _

/-- With valid settings it is the depths of the queues that decide. -/
theorem start_of_validate (hvalid : settings.validate = .ok ()) (station : Station) :
    (settings.Fits → ∃ pipeline, (start settings station).2 = .ok pipeline) ∧
      (¬ settings.Fits → (start settings station).2 = .error (.fault .queueTooDeep)) := by
  have hstarted := started settings station
  cases hstart : start settings station with
  | mk after result =>
    rw [hstart] at hstarted
    cases hstarted with
    | refused cause hinvalid =>
      rw [hvalid] at hinvalid
      cases hinvalid
    | stopped store failure _ hseed =>
      obtain ⟨_, hseeded⟩ :=
        exists_seed_eq (Settings.validate_eq_ok_iff.mp hvalid).2.2.2 station.store
      rw [hseeded] at hseed
      cases hseed
    | tooDeep store _ _ hdeep =>
      refine ⟨fun hfits => ?_, fun _ => rfl⟩
      obtain ⟨hinbound, hshards⟩ := hfits
      omega
    | running store _ _ hfits => exact ⟨fun _ => ⟨_, rfl⟩, fun hnot => absurd hfits hnot⟩

theorem submit?_eq_error (hended : pipeline.intakeRuns = false) (raw : Bytes) :
    pipeline.submit? raw = some (.error .shutDown) := by
  simp [submit?, hended]

end Pipeline

namespace GatewayRun

variable {settings : Settings} {station : Station} {run next : GatewayRun} {action : Action}

/-! ### What an action does to the pipeline -/

inductive PipelineMove (pipeline : Pipeline) : Action → Pipeline → Prop where
  | submit (raw : Bytes) (hroom : pipeline.inbound.items.length < pipeline.inbound.capacity) :
      PipelineMove pipeline (.submit raw)
        { pipeline with
          inbound := { pipeline.inbound with items := pipeline.inbound.items ++ [raw] } }
  | intake (after : Pipeline) (hmove : Pipeline.IntakeMove pipeline after) :
      PipelineMove pipeline .intake after
  | shards (after : Pipeline) (hmove : Pipeline.ShardMove pipeline after) :
      PipelineMove pipeline .shards after
  | wake (identity : Identity) (timer : Timer) (engine : Engine) :
      PipelineMove pipeline (.wake identity timer) { pipeline with engine }
  | notify (notice : Notice) (station : Station) :
      PipelineMove pipeline (.notify notice) { pipeline with station }
  | change (station : Station) : PipelineMove pipeline (.change station) { pipeline with station }
  | close : PipelineMove pipeline .close { pipeline with accepting := false }
  | finish (station : Station) (engine : Engine) :
      PipelineMove pipeline .finish { pipeline with station, engine }

theorem pipelineMove (hstep : run.step? action = some next) :
    PipelineMove run.pipeline action next.pipeline := by
  cases action with
  | submit raw =>
    simp only [step?] at hstep
    split at hstep
    · rename_i pipeline hsubmit
      cases hstep
      obtain ⟨_, _, hroom, rfl⟩ := Pipeline.submit?_eq_ok_iff.mp hsubmit
      exact .submit raw hroom
    · cases hstep
  | intake =>
    obtain ⟨pipeline, hintake, rfl⟩ := Option.map_eq_some_iff.mp hstep
    exact .intake pipeline (Pipeline.intakeMove hintake).2
  | shards =>
    obtain ⟨pipeline, hshards, rfl⟩ := Option.map_eq_some_iff.mp hstep
    rw [(run.resumes_afterShards pipeline).1]
    exact .shards pipeline (Pipeline.shardMove hshards).2
  | wake identity timer =>
    simp only [step?] at hstep
    split_ifs at hstep
    cases hstep
    exact .wake identity timer _
  | notify notice =>
    simp only [step?] at hstep
    split_ifs at hstep
    cases hstep
    exact .notify notice _
  | change station =>
    simp only [step?] at hstep
    split_ifs at hstep
    cases hstep
    exact .change station
  | close =>
    cases hstep
    exact .close
  | finish =>
    simp only [step?] at hstep
    split_ifs at hstep
    cases hstep
    exact .finish _ _

/-! ### The inbound queue -/

/-- There are never more frames waiting than the settings allow. -/
structure Bounded (settings : Settings) (pipeline : Pipeline) : Prop where
  capacity_eq : pipeline.inbound.capacity = settings.inboundDepth
  length_le : pipeline.inbound.items.length ≤ settings.inboundDepth

section Bounded

variable {pipeline after : Pipeline}

theorem Bounded.rest (h : Bounded settings pipeline) {raw : Bytes} {rest : List Bytes}
    (hraw : pipeline.inbound.items = raw :: rest) : rest.length < settings.inboundDepth := by
  have hle := h.length_le
  rw [hraw, List.length_cons] at hle
  exact hle

theorem Bounded.intake (h : Bounded settings pipeline)
    (hmove : Pipeline.IntakeMove pipeline after) : Bounded settings after := by
  cases hmove with
  | ended => exact ⟨h.capacity_eq, h.length_le⟩
  | routed raw rest hraw => exact ⟨h.capacity_eq, Nat.le_of_lt (h.rest hraw)⟩
  | passedOn raw rest frame hraw => exact ⟨h.capacity_eq, Nat.le_of_lt (h.rest hraw)⟩
  | dropped raw rest frame hraw => exact ⟨h.capacity_eq, Nat.le_of_lt (h.rest hraw)⟩
  | stopped => exact ⟨h.capacity_eq, Nat.zero_le _⟩

theorem Bounded.move (h : Bounded settings pipeline) (hmove : PipelineMove pipeline action after) :
    Bounded settings after := by
  cases hmove with
  | submit raw hroom =>
    rw [h.capacity_eq] at hroom
    refine ⟨h.capacity_eq, ?_⟩
    rw [List.length_append, List.length_singleton]
    exact hroom
  | intake _ hintake => exact h.intake hintake
  | shards _ hshards => cases hshards <;> exact ⟨h.capacity_eq, h.length_le⟩
  | wake | notify | change | close | finish => exact ⟨h.capacity_eq, h.length_le⟩

end Bounded

theorem Bounded.perform (h : Bounded settings run.pipeline) {actions : List Action}
    (hperform : run.perform? actions = some next) : Bounded settings next.pipeline := by
  induction actions generalizing run with
  | nil => exact Option.some.inj hperform ▸ h
  | cons action rest ih =>
    rw [perform?, List.foldlM_cons] at hperform
    obtain ⟨middle, hstep, hrest⟩ := Option.bind_eq_some_iff.mp hperform
    exact ih (h.move (pipelineMove hstep)) hrest

theorem bounded_run {actions : List Action} (hrun : run? settings station actions = some run) :
    Bounded settings run.pipeline := by
  obtain ⟨first, hstart, hperform⟩ := Option.bind_eq_some_iff.mp hrun
  refine Bounded.perform ?_ hperform
  unfold start? at hstart
  split at hstart
  · rename_i pipeline hpipeline
    obtain ⟨seeded, _, rfl⟩ := Pipeline.exists_of_start hpipeline
    cases hstart
    exact ⟨rfl, Nat.zero_le _⟩
  · cases hstart

/-! ### A gateway that serves -/

/-- Nothing has come down. As long as the gateway has not been closed, both tasks run, and a frame
that has to wait is taken after the next step of the intake. -/
structure Serves (run : GatewayRun) : Prop where
  fault_eq : run.pipeline.fault = none
  tasks_run : run.pipeline.accepting = true →
    run.pipeline.intakeRuns = true ∧ run.pipeline.shardsRun = true
  takes : run.pipeline.accepting = true → ∀ raw,
    (∃ pipeline, run.pipeline.submit? raw = some (.ok pipeline)) ∨
      run.pipeline.submit? raw = none ∧ ∃ next, run.step? .intake = some next ∧
        ∃ pipeline, next.pipeline.submit? raw = some (.ok pipeline)

theorem Consistent.tasks_run (h : Consistent settings station run)
    (hfault : run.pipeline.fault = none) (hopen : run.pipeline.accepting = true) :
    run.pipeline.intakeRuns = true ∧ run.pipeline.shardsRun = true := by
  have hintake : run.pipeline.intakeRuns = true := by
    by_contra hended
    rw [Bool.not_eq_true] at hended
    have hclosed := (h.intake_ended hended).2 hfault
    rw [hopen] at hclosed
    cases hclosed
  refine ⟨hintake, ?_⟩
  by_contra hended
  rw [Bool.not_eq_true] at hended
  have hlast := (h.shards_ended hended).2 hfault
  rw [hintake] at hlast
  cases hlast

theorem exists_submit?_eq_ok {pipeline : Pipeline} (hopen : pipeline.accepting = true)
    (hintake : pipeline.intakeRuns = true)
    (hroom : pipeline.inbound.items.length < pipeline.inbound.capacity) (raw : Bytes) :
    ∃ after, pipeline.submit? raw = some (.ok after) :=
  ⟨_, Pipeline.submit?_eq_ok_iff.mpr ⟨hopen, hintake, hroom, rfl⟩⟩

/-- A full queue is not empty, so the intake has something to do, and that makes room. -/
theorem Bounded.exists_room (h : Bounded settings run.pipeline) (hdepth : settings.inboundDepth ≠ 0)
    (hopen : run.pipeline.accepting = true) (hintake : run.pipeline.intakeRuns = true)
    (hshards : run.pipeline.shardsRun = true)
    (hfull : run.pipeline.inbound.capacity ≤ run.pipeline.inbound.items.length) (raw : Bytes) :
    ∃ next, run.step? .intake = some next ∧
      ∃ pipeline, next.pipeline.submit? raw = some (.ok pipeline) := by
  cases hraw : run.pipeline.inbound.items with
  | nil =>
    rw [hraw, h.capacity_eq] at hfull
    exact absurd (Nat.le_zero.mp hfull) hdepth
  | cons first rest =>
    have hroom : rest.length < run.pipeline.inbound.capacity := h.capacity_eq ▸ h.rest hraw
    cases hstep : run.pipeline.intakeStep? with
    | none =>
      rcases Pipeline.intakeStep?_eq_none_iff.mp hstep with hended | ⟨hempty, _⟩
      · rw [hintake] at hended
        cases hended
      · rw [hraw] at hempty
        cases hempty
    | some pipeline =>
      refine ⟨run.afterIntake pipeline, by rw [step?, hstep]; rfl, ?_⟩
      have hmove := (Pipeline.intakeMove hstep).2
      change ∃ after, pipeline.submit? raw = some (.ok after)
      cases hmove with
      | ended hempty =>
        rw [hraw] at hempty
        cases hempty
      | stopped _ _ _ _ _ hdown =>
        rw [hshards] at hdown
        cases hdown
      | routed other more hother | passedOn other more _ hother | dropped other more _ hother =>
        obtain ⟨rfl, rfl⟩ := List.cons.inj (hraw.symm.trans hother)
        refine exists_submit?_eq_ok ?_ ?_ ?_ raw
        · exact hopen
        · exact hintake
        · exact hroom

theorem serves_of_lt (hvalid : settings.validate = .ok ()) {actions : List Action}
    (hrun : run? settings station actions = some run)
    (hclock : run.now + settings.timeout < Clock.limit) : run.Serves := by
  have h := consistent_run hrun
  have hfault : run.pipeline.fault = none := by
    by_contra hfault
    exact absurd (h.fault_late hfault).2 (Nat.not_le.mpr hclock)
  have htasks := h.tasks_run hfault
  refine ⟨hfault, htasks, fun hopen raw => ?_⟩
  obtain ⟨hintake, hshards⟩ := htasks hopen
  rcases Nat.lt_or_ge run.pipeline.inbound.items.length run.pipeline.inbound.capacity with
    hroom | hfull
  · exact Or.inl (exists_submit?_eq_ok hopen hintake hroom raw)
  · have hwaits : run.pipeline.submit? raw = none := by
      simp [Pipeline.submit?, hopen, hintake, Queue.push?_eq_none_iff.mpr hfull]
    exact Or.inr ⟨hwaits, (bounded_run hrun).exists_room
      (Settings.validate_eq_ok_iff.mp hvalid).2.1 hopen hintake hshards hfull raw⟩

/-! ### How a task comes down -/

theorem fault_of_ne_shards {pipeline after : Pipeline} (hmove : PipelineMove pipeline action after)
    (hother : action ≠ .shards) : after.fault = pipeline.fault := by
  cases hmove with
  | intake _ hintake => cases hintake <;> rfl
  | shards => exact absurd rfl hother
  | submit | wake | notify | change | close | finish => rfl

/-- The piece that the shard task takes next sets a deadline that the clock cannot show. -/
def IsOverdue (settings : Settings) (run : GatewayRun) : Prop :=
  Clock.limit ≤ run.now + settings.timeout ∧ ∃ frame rest,
    run.pipeline.pieces.items = frame :: rest ∧
      (run.pipeline.engine.submit frame run.now).2.progress.isSome = true

theorem Consistent.shardStep?_of_isOverdue (h : Consistent settings station run)
    (hruns : run.pipeline.shardsRun = true) (hoverdue : run.IsOverdue settings) :
    run.pipeline.shardStep? =
      some
        { run.pipeline with
          pieces := { run.pipeline.pieces with items := [] }
          shardsRun := false
          fault := some .clockOverflow } := by
  obtain ⟨hlimit, frame, rest, hframe, hprogress⟩ := hoverdue
  obtain ⟨deadline, hsome⟩ := Option.isSome_iff_exists.mp hprogress
  have hlate : Clock.limit ≤ deadline := by
    rw [Engine.deadline_of_progress hsome, h.timeout_eq]
    exact hlimit
  rw [Pipeline.shardStep?_of_cons hruns hframe, Option.some.injEq, if_pos]
  exact (Option.any_eq_true ..).mpr ⟨deadline, hsome, decide_eq_true hlate⟩

theorem Consistent.fault_shards_iff (h : Consistent settings station run)
    (hfault : run.pipeline.fault = none) (hstep : run.step? .shards = some next) :
    next.pipeline.fault ≠ none ↔ run.IsOverdue settings := by
  obtain ⟨pipeline, hshards, rfl⟩ := Option.map_eq_some_iff.mp hstep
  rw [(run.resumes_afterShards pipeline).1]
  obtain ⟨hruns, hmove⟩ := Pipeline.shardMove hshards
  constructor
  · intro hdown
    cases hmove with
    | ended => exact absurd hfault hdown
    | answered => exact absurd hfault hdown
    | faulted frame rest deadline hframe hprogress hlate =>
      rw [Engine.deadline_of_progress hprogress, h.timeout_eq] at hlate
      exact ⟨hlate, frame, rest, hframe, Option.isSome_iff_exists.mpr ⟨deadline, hprogress⟩⟩
  · intro hoverdue
    rw [h.shardStep?_of_isOverdue hruns hoverdue, Option.some.injEq] at hshards
    subst hshards
    simp

theorem Consistent.fault_iff (h : Consistent settings station run)
    (hfault : run.pipeline.fault = none) (hstep : run.step? action = some next) :
    next.pipeline.fault ≠ none ↔ action = .shards ∧ run.IsOverdue settings := by
  by_cases hshards : action = .shards
  · subst hshards
    rw [h.fault_shards_iff hfault hstep]
    simp
  · rw [fault_of_ne_shards (pipelineMove hstep) hshards]
    simp [hfault, hshards]

/-! ### Two pieces are enough -/

/-- The first piece of a shard that goes on. -/
def openingPiece (identity : Identity) : Frame :=
  Frame.make identity (Header.make 0 true .monitoring) [0, 0, 0, 0]

theorem fragment?_openingPiece {identity : Identity} {device : String}
    (hdevice : station.directory.device? identity = some device) :
    station.fragment? (openingPiece identity).encode = some (openingPiece identity) := by
  have hdecode : Frame.decode (openingPiece identity).encode = .ok (openingPiece identity) :=
    Frame.decode_encode_make ..
  refine Station.fragment?_eq_some_iff.mpr ⟨hdecode, rfl, device, hdevice, ?_⟩
  rw [Station.handleRaw, hdecode]
  exact Station.route_of_fragmented rfl hdevice

theorem progress_openingPiece (timeout : Time) (identity : Identity) (now : Time) :
    ((Engine.make timeout).submit (openingPiece identity) now).2.progress =
      some (now + timeout) := by
  have hparse : ShardPiece.parse (openingPiece identity).payload = .ok ⟨0, 0, false, []⟩ := by
    change ShardPiece.parse [0, 0, 0, 0] = _
    decide
  have hopening : (ShardTable.make timeout).IsOpening identity ⟨0, 0, false, []⟩ :=
    ⟨rfl, fun assembly hfound => nomatch hfound⟩
  have hprocess := ShardTable.process_of_isOpening (ShardTable.make timeout) now
    (show (openingPiece identity).fragmented = true from rfl) hparse hopening
  calc ((Engine.make timeout).submit (openingPiece identity) now).2.progress
      = ((ShardTable.make timeout).process (openingPiece identity) now).2.progress := rfl
    _ = ((ShardTable.make timeout).openShard (openingPiece identity) ⟨0, 0, false, []⟩
          now).2.progress := by rw [hprocess]
    _ = some (now + timeout) := ShardTable.progress_openShard ..

theorem exists_step_submit (run : GatewayRun) (hopen : run.pipeline.accepting = true)
    (hintake : run.pipeline.intakeRuns = true)
    (hroom : run.pipeline.inbound.items.length < run.pipeline.inbound.capacity) (raw : Bytes) :
    ∃ next, run.step? (.submit raw) = some next ∧
      next.pipeline =
        { run.pipeline with
          inbound :=
            { run.pipeline.inbound with items := run.pipeline.inbound.items ++ [raw] } } := by
  obtain ⟨pipeline, hsubmit⟩ := exists_submit?_eq_ok hopen hintake hroom raw
  exact ⟨_, by rw [step?, hsubmit], (Pipeline.submit?_eq_ok_iff.mp hsubmit).2.2.2⟩

theorem exists_step_passOn (run : GatewayRun) {raw : Bytes} {rest : List Bytes} {frame : Frame}
    (hintake : run.pipeline.intakeRuns = true) (hraw : run.pipeline.inbound.items = raw :: rest)
    (hpiece : run.pipeline.station.fragment? raw = some frame)
    (hruns : run.pipeline.shardsRun = true)
    (hroom : run.pipeline.pieces.items.length < run.pipeline.pieces.capacity) :
    ∃ next, run.step? .intake = some next ∧
      next.pipeline =
        { run.pipeline with
          station := (run.pipeline.station.handleRaw raw).1
          inbound := { run.pipeline.inbound with items := rest }
          pieces :=
            { run.pipeline.pieces with items := run.pipeline.pieces.items ++ [frame] } } := by
  have hstep := Pipeline.intakeStep?_of_cons hintake hraw
  rw [hpiece] at hstep
  refine ⟨_, by rw [step?, hstep]; rfl, ?_⟩
  change Pipeline.forward _ frame = _
  simp [Pipeline.forward, hruns, Queue.push?_eq_some_iff.mpr ⟨hroom, rfl⟩]

theorem exists_step_stop (run : GatewayRun) {raw : Bytes} {rest : List Bytes} {frame : Frame}
    (hintake : run.pipeline.intakeRuns = true) (hraw : run.pipeline.inbound.items = raw :: rest)
    (hpiece : run.pipeline.station.fragment? raw = some frame)
    (hended : run.pipeline.shardsRun = false) :
    ∃ next, run.step? .intake = some next ∧
      next.pipeline =
        { run.pipeline with
          station := (run.pipeline.station.handleRaw raw).1
          inbound := { run.pipeline.inbound with items := [] }
          intakeRuns := false } := by
  have hstep := Pipeline.intakeStep?_of_cons hintake hraw
  rw [hpiece] at hstep
  refine ⟨_, by rw [step?, hstep]; rfl, ?_⟩
  change Pipeline.forward _ frame = _
  simp [Pipeline.forward, hended, Queue.emptied]

theorem Consistent.exists_step_shards (h : Consistent settings station run)
    (hruns : run.pipeline.shardsRun = true) (hoverdue : run.IsOverdue settings) :
    ∃ next, run.step? .shards = some next ∧
      next.pipeline =
        { run.pipeline with
          pieces := { run.pipeline.pieces with items := [] }
          shardsRun := false
          fault := some .clockOverflow } := by
  have hstep := h.shardStep?_of_isOverdue hruns hoverdue
  exact ⟨_, by rw [step?, hstep]; rfl, (run.resumes_afterShards _).1⟩

theorem exists_start (hvalid : settings.validate = .ok ()) (hfits : settings.Fits) :
    ∃ run seeded, start? settings station = some run ∧ Station.Keeps station seeded ∧
      run.pipeline =
        { station := seeded
          engine := Engine.make settings.timeout
          inbound := Queue.fresh settings.inboundDepth
          pieces := Queue.fresh settings.shardDepth
          accepting := true
          intakeRuns := true
          shardsRun := true
          fault := none } := by
  obtain ⟨pipeline, hstart⟩ := (Pipeline.start_of_validate hvalid station).1 hfits
  obtain ⟨seeded, hkeeps, rfl⟩ := Pipeline.exists_of_start hstart
  exact ⟨_, seeded, by rw [start?, hstart], hkeeps, rfl⟩

/-- A known sensor that sends the first piece of a shard, and sends it again, brings down a gateway
that cannot show its first deadline. -/
theorem exists_run_down (hvalid : settings.validate = .ok ()) (hfits : settings.Fits)
    (hlate : Clock.limit ≤ station.clock.now + settings.timeout) {identity : Identity}
    {device : String} (hdevice : station.directory.device? identity = some device) :
    ∃ actions run, run? settings station actions = some run ∧
      run.pipeline.accepting = true ∧ run.pipeline.fault = some .clockOverflow ∧
      run.pipeline.intakeRuns = false := by
  obtain ⟨-, hinbound, hdepth, -⟩ := Settings.validate_eq_ok_iff.mp hvalid
  obtain ⟨started, seeded, hstarted, hkeeps, hfirst⟩ := exists_start hvalid hfits
  have hknown : seeded.directory.device? identity = some device := by
    rwa [hkeeps.directory_eq]
  -- the piece comes in and goes on to the shard task
  obtain ⟨submitted, hsubmit, hsecond⟩ := started.exists_step_submit (by rw [hfirst])
    (by rw [hfirst]) (by rw [hfirst]; exact Nat.pos_of_ne_zero hinbound)
    (openingPiece identity).encode
  rw [hfirst] at hsecond
  obtain ⟨passed, hintake, hthird⟩ := submitted.exists_step_passOn (by rw [hsecond])
    (by rw [hsecond]; rfl) (by rw [hsecond]; exact fragment?_openingPiece hknown)
    (by rw [hsecond]) (by rw [hsecond]; exact Nat.pos_of_ne_zero hdepth)
  rw [hsecond] at hthird
  -- there its deadline brings the task down
  have hconsistent : Consistent settings station passed :=
    ((consistent_start hstarted).step hsubmit).step hintake
  have hclock : passed.now = station.clock.now := by
    rw [now, hthird]
    exact congrArg Clock.now
      ((Station.keeps_handleRaw seeded _).clock_eq.trans hkeeps.clock_eq)
  have hoverdue : passed.IsOverdue settings := by
    refine ⟨hclock ▸ hlate, openingPiece identity, [], by rw [hthird]; rfl, ?_⟩
    rw [hthird]
    exact Option.isSome_iff_exists.mpr ⟨_, progress_openingPiece ..⟩
  obtain ⟨faulted, hshards, hfourth⟩ :=
    hconsistent.exists_step_shards (by rw [hthird]) hoverdue
  rw [hthird] at hfourth
  -- and the next piece finds nobody there
  obtain ⟨again, hagain, hfifth⟩ := faulted.exists_step_submit (by rw [hfourth])
    (by rw [hfourth]) (by rw [hfourth]; exact Nat.pos_of_ne_zero hinbound)
    (openingPiece identity).encode
  rw [hfourth] at hfifth
  have hstill : again.pipeline.station.directory.device? identity = some device := by
    rw [hfifth]
    exact (congrArg (Directory.device? · identity)
      (Station.keeps_handleRaw seeded _).directory_eq).trans hknown
  obtain ⟨ended, hlast, hsixth⟩ := again.exists_step_stop (by rw [hfifth])
    (by rw [hfifth]; rfl) (fragment?_openingPiece hstill) (by rw [hfifth])
  rw [hfifth] at hsixth
  refine ⟨[.submit (openingPiece identity).encode, .intake, .shards,
    .submit (openingPiece identity).encode, .intake], ended, ?_, ?_⟩
  · simp [run?, hstarted, perform?, hsubmit, hintake, hshards, hagain, hlast]
  · rw [hsixth]
    exact ⟨rfl, rfl, rfl⟩

/-- What becomes of a gateway with given settings at a given station. -/
structure Endurance (settings : Settings) (station : Station) : Prop where
  starts : settings.Fits → ∃ pipeline, (Pipeline.start settings station).2 = .ok pipeline
  too_deep : ¬ settings.Fits →
    (Pipeline.start settings station).2 = .error (.fault .queueTooDeep)
  serves : ∀ actions run, run? settings station actions = some run →
    run.now + settings.timeout < Clock.limit → run.Serves
  fault_iff : ∀ actions run action next, run? settings station actions = some run →
    run.pipeline.fault = none → run.step? action = some next →
      (next.pipeline.fault ≠ none ↔ action = .shards ∧ run.IsOverdue settings)
  /-- One sensor can do it, and afterwards every frame is refused though nobody has closed the
  gateway. -/
  comes_down : settings.Fits → Clock.limit ≤ station.clock.now + settings.timeout →
    ∀ identity device, station.directory.device? identity = some device →
      ∃ actions run, run? settings station actions = some run ∧ run.pipeline.accepting = true ∧
        run.pipeline.fault = some .clockOverflow ∧
        ∀ raw, run.pipeline.submit? raw = some (.error .shutDown)

/-- **How long a gateway lasts.** Accepted settings may still ask for a queue that cannot be made or
for deadlines that the clock cannot show: the former keeps the gateway from starting, the latter
brings it down at the first piece that makes progress too late, and nothing else does. -/
theorem endurance (settings : Settings) (station : Station)
    (hvalid : settings.validate = .ok ()) : Endurance settings station where
  starts := (Pipeline.start_of_validate hvalid station).1
  too_deep := (Pipeline.start_of_validate hvalid station).2
  serves _ _ hrun hclock := serves_of_lt hvalid hrun hclock
  fault_iff _ _ _ _ hrun hfault hstep := (consistent_run hrun).fault_iff hfault hstep
  comes_down hfits hlate _ _ hdevice := by
    obtain ⟨actions, run, hrun, hopen, hfault, hended⟩ :=
      exists_run_down hvalid hfits hlate hdevice
    exact ⟨actions, run, hrun, hopen, hfault, Pipeline.submit?_eq_error hended⟩

/-- The only place in the inbound queue is taken. -/
def fullRun : Option GatewayRun :=
  run? { inboundDepth := 1 } pumpStation [.submit EngineRun.lonePiece.encode]

theorem endurance_fullRun :
    ({ inboundDepth := 1 } : Settings).validate = .ok () ∧
      ∃ run, fullRun = some run ∧ run.pipeline.submit? reading.encode = none ∧ run.Serves := by
  have hserves := (endurance { inboundDepth := 1 } pumpStation rfl).serves
  refine ⟨rfl, fullRun.get (by decide +kernel), (Option.some_get _).symm, by decide +kernel, ?_⟩
  exact hserves _ _ (Option.some_get _).symm (by decide +kernel)

def unendingTimeout : Settings :=
  { timeoutSeconds := 0x8000000000000000 }

def bottomlessQueue : Settings :=
  { shardDepth := 0x2000000000000000 }

/-- The first piece has brought the shard task down, and the second one the intake. -/
def fallenRun : Option GatewayRun :=
  run? unendingTimeout pumpStation
    [.submit EngineRun.lonePiece.encode, .intake, .shards, .submit laterPiece.encode, .intake]

/-- Settings are found valid with which a gateway does not start, or does not go on. -/
theorem not_forall_start_and_accept :
    (¬ ∀ (settings : Settings) (station : Station), settings.validate = .ok () →
      ∃ pipeline, (Pipeline.start settings station).2 = .ok pipeline) ∧
      ¬ ∀ (settings : Settings) (station : Station) (actions : List Action) (run : GatewayRun),
        settings.validate = .ok () → run? settings station actions = some run →
          run.pipeline.accepting = true →
            ∀ raw, run.pipeline.submit? raw ≠ some (.error .shutDown) := by
  constructor
  · intro hstarts
    obtain ⟨pipeline, hpipeline⟩ := hstarts bottomlessQueue pumpStation rfl
    have hdeep : (Pipeline.start bottomlessQueue pumpStation).2 =
        .error (.fault .queueTooDeep) := rfl
    rw [hdeep] at hpipeline
    cases hpipeline
  · intro haccepts
    have hended : (fallenRun.get (by decide +kernel)).pipeline.intakeRuns = false := by
      decide +kernel
    exact haccepts unendingTimeout pumpStation _ _ rfl (Option.some_get _).symm
      (by decide +kernel) reading.encode (Pipeline.submit?_eq_error hended _)

end GatewayRun

end SensorGateway
