import SensorGateway.Proofs.Gateway.Tasks
import SensorGateway.Proofs.Shard.Exchange
import SensorGateway.Proofs.Shard.Isolation
import SensorGateway.Proofs.Shard.LifeCycle

/-!
# A gateway in operation

A gateway is run by whoever submits frames, by the intake, by the shard task, by the timer tasks and
by whoever shuts it down. All of them take turns in any order, and the station may change in between
because others use it. Beside the pipeline a run keeps a record of what has been accepted, handled,
handed on and answered; the record is read off the pipeline before and after each action.

The invariant of a run is `Consistent`: what has come into a queue is what has gone out of it
followed by what still waits, unless a deadline could not be shown on the clock.
-/

namespace SensorGateway

namespace Engine

variable (engine : Engine) (frame : Frame) (identity : Identity) (generation : Nat) (now : Time)

theorem isShutDown_submit : (engine.submit frame now).1.isShutDown = engine.isShutDown := by
  unfold submit
  split_ifs <;> rfl

variable {engine frame now} in
theorem deadline_of_progress {deadline : Time}
    (h : (engine.submit frame now).2.progress = some deadline) :
    deadline = now + engine.table.timeout := by
  cases hclosed : engine.isShutDown with
  | true => simp [submit, hclosed] at h
  | false =>
    simp only [submit, hclosed, Bool.false_eq_true, if_false] at h
    have hcases := engine.table.processed frame now
    cases hprocess : engine.table.process frame now with
    | mk after outcome =>
      rw [hprocess] at hcases h
      cases hcases with
      | whole | refused => cases h
      | opened | openedWhole => exact (Option.some.inj h).symm
      | joined | completed =>
        dsimp only at h
        split_ifs at h
        exact (Option.some.inj h).symm

theorem isShutDown_poll :
    (engine.poll identity generation now).1.isShutDown = engine.isShutDown := by
  unfold poll
  split <;> rfl

theorem timeout_poll :
    (engine.poll identity generation now).1.table.timeout = engine.table.timeout := by
  have htimeout := engine.table.timeout_expire identity generation now
  unfold poll
  split
  all_goals
    rename_i hexpire
    rwa [hexpire] at htimeout

end Engine

namespace EngineRun

/-- The engine is shut down, and the answers that this calls for go out at once. -/
def finish (run : EngineRun) : EngineRun :=
  { run.shutdown with
    unsent := run.unsent
    sent := run.sent ++ run.engine.shutdown.2.map fun answer => run.notice answer.1 answer.2 }

/-- No timer has given a reassembly up. -/
def IsPatient (run : EngineRun) : Prop :=
  ∀ departure ∈ run.departed, departure.2 ≠ some .evicted

variable {run : EngineRun} {identity : Identity} {timer : Timer} {now : Time}

theorem Sound.table_poll_of_isPatient (h : run.Sound)
    (hpatient : (run.poll identity timer now).IsPatient) :
    (run.engine.poll identity timer.generation now).1.table = run.engine.table := by
  by_cases hown : ∃ assembly, run.engine.table.assembly? identity = some assembly ∧
      assembly.generation = timer.generation
  · obtain ⟨assembly, hfound, hgeneration⟩ := hown
    rcases Nat.lt_or_ge now assembly.deadline with hearly | hlate
    · rw [← hgeneration, Engine.poll_of_early hfound hearly]
    · have hpoll := Engine.poll_of_late hfound hlate
      rw [hgeneration] at hpoll
      have hleaving : (run.leaving (run.engine.poll identity timer.generation now).1
          (Departure.ofTimer identity timer)).Perm
          [(assembly.generation, Departure.ofTimer identity timer identity assembly)] :=
        leaving_perm_of_erase h hfound (by rw [hpoll])
      have hgone : (assembly.generation, some .evicted) ∈ (run.poll identity timer now).departed :=
        List.mem_append_right _
          (hleaving.mem_iff.mpr (by simp [Departure.ofTimer, hgeneration]))
      -- the timer took it away, and that is on record
      exact absurd rfl (hpatient _ hgone)
  · have hother : ∀ assembly, run.engine.table.assembly? identity = some assembly →
        assembly.generation ≠ timer.generation :=
      fun assembly hfound hgeneration => hown ⟨assembly, hfound, hgeneration⟩
    rw [Engine.poll_of_ne hother]

theorem Sound.finish (h : run.Sound) : run.finish.Sound := by
  -- the same answers as after `shutdown`, which leaves them to be sent
  have hperm : (run.finish.unsent ++ run.finish.sent).Perm
      (run.shutdown.unsent ++ run.shutdown.sent) := by
    refine List.Perm.trans (List.perm_append_comm.append_left _) ?_
    exact List.Perm.of_eq (List.append_assoc ..).symm
  exact
    { h.shutdown with
      told := (hperm.map _).trans h.shutdown.told
      failures := fun notice hmem => h.shutdown.failures notice (hperm.mem_iff.mp hmem) }

theorem Sound.drained_finish (h : run.Sound) {assembly : Assembly}
    (hmem : (identity, assembly) ∈ run.engine.table.assemblies.entries) :
    (assembly.generation, some .drained) ∈ run.finish.departed ∧
      ⟨identity, some assembly.generation, .reject assembly.shard assembly.lastPiece⟩ ∈
        run.finish.sent := by
  have hfound : run.engine.table.assembly? identity = some assembly :=
    h.ordered.unique.get?_eq_some_iff.mpr hmem
  constructor
  · refine List.mem_append_right _ ((mem_leaving h.ordered).mpr ?_)
    exact ⟨identity, assembly, hfound, List.not_mem_nil, rfl⟩
  · refine List.mem_append_right _ (List.mem_map.mpr ?_)
    refine ⟨(identity, .reject assembly.shard assembly.lastPiece), List.mem_map.mpr ?_, ?_⟩
    · exact ⟨(identity, assembly), hmem, rfl⟩
    · rw [notice, hfound]
      rfl

end EngineRun

structure GatewayRun where
  pipeline : Pipeline
  /-- The engine of the pipeline with its timer tasks. -/
  life : EngineRun
  /-- The frames that have been accepted, oldest first. -/
  accepted : List Bytes
  handled : List Bytes
  /-- The pieces among them, each with the number of pieces that it has found waiting. -/
  fragments : List (Frame × Nat)
  /-- The pieces that the shard task has given to the engine. -/
  answered : List Exchange
  /-- What was under way when the engine was shut down, once it has been. -/
  inFlight : Option (List (Identity × Assembly))

namespace GatewayRun

inductive Action where
  | submit (raw : Bytes)
  | intake
  | shards
  /-- A timer task wakes up, on time or late. -/
  | wake (identity : Identity) (timer : Timer)
  /-- A timer task sends the answer that it owes. -/
  | notify (notice : Notice)
  /-- Time passes, or somebody else uses what the gateway acts upon. -/
  | change (station : Station)
  | close
  /-- Both tasks have ended, and the engine is shut down. -/
  | finish

def start? (settings : Settings) (station : Station) : Option GatewayRun :=
  match (Pipeline.start settings station).2 with
  | .ok pipeline => some ⟨pipeline, EngineRun.start settings.timeout, [], [], [], [], none⟩
  | .error _ => none

def now (run : GatewayRun) : Time :=
  run.pipeline.station.clock.now

def afterIntake (run : GatewayRun) (pipeline : Pipeline) : GatewayRun :=
  let taken := run.pipeline.inbound.items.take 1
  let pieces := taken.filterMap run.pipeline.station.fragment?
  { run with
    pipeline
    handled := run.handled ++ taken
    fragments := run.fragments ++
      pieces.map fun frame => (frame, run.pipeline.pieces.items.length) }

def afterShards (run : GatewayRun) (pipeline : Pipeline) : GatewayRun :=
  match run.pipeline.pieces.items, pipeline.fault with
  | frame :: _, none =>
    { run with
      pipeline
      life := run.life.submit frame run.now
      answered := run.answered ++ [run.pipeline.engine.exchange frame run.now] }
  | _, _ => { run with pipeline }

def step? (run : GatewayRun) : Action → Option GatewayRun
  | .submit raw =>
    match run.pipeline.submit? raw with
    | some (.ok pipeline) => some { run with pipeline, accepted := run.accepted ++ [raw] }
    | _ => none
  | .intake => run.pipeline.intakeStep?.map run.afterIntake
  | .shards => run.pipeline.shardStep?.map run.afterShards
  | .wake identity timer =>
    if run.life.tasks.contains (identity, timer) ∧ timer.wake ≤ run.now then
      let engine := (run.pipeline.engine.poll identity timer.generation run.now).1
      some
        { run with
          pipeline := { run.pipeline with engine }
          life := run.life.poll identity timer run.now }
    else none
  | .notify notice =>
    if notice ∈ run.life.unsent then
      let station :=
        run.pipeline.station.send notice.identity (notice.ack.encode notice.identity)
      some { run with pipeline := { run.pipeline with station }, life := run.life.send notice }
    else none
  | .change station =>
    if station.directory = run.pipeline.station.directory ∧ run.now ≤ station.clock.now then
      some { run with pipeline := { run.pipeline with station } }
    else none
  | .close => some { run with pipeline := run.pipeline.close }
  | .finish =>
    let pipeline := run.pipeline
    if pipeline.accepting || pipeline.intakeRuns || pipeline.shardsRun || run.inFlight.isSome then
      none
    else
      let (station, engine) := pipeline.station.shutdown pipeline.engine
      some
        { run with
          pipeline := { pipeline with station, engine }
          life := run.life.finish
          inFlight := some pipeline.engine.table.assemblies.entries }

def perform? (run : GatewayRun) (actions : List Action) : Option GatewayRun :=
  actions.foldlM step? run

/-- A gateway that has been started at a station, after some actions. -/
def run? (settings : Settings) (station : Station) (actions : List Action) : Option GatewayRun :=
  (start? settings station).bind (perform? · actions)

/-- The pieces that have found room in a queue. -/
def kept (depth : Nat) (fragments : List (Frame × Nat)) : List Frame :=
  (fragments.filter fun piece => piece.2 < depth).map Prod.fst

def given (run : GatewayRun) : List Frame :=
  run.answered.map Exchange.frame

/-! ### The invariant -/

structure Consistent (settings : Settings) (station : Station) (run : GatewayRun) : Prop where
  engine_eq : run.life.engine = run.pipeline.engine
  life : run.life.Sound
  directory_eq : run.pipeline.station.directory = station.directory
  timeout_eq : run.pipeline.engine.table.timeout = settings.timeout
  capacity_eq : run.pipeline.pieces.capacity = settings.shardDepth
  length_le : run.pipeline.pieces.items.length ≤ settings.shardDepth
  found_le : ∀ piece ∈ run.fragments, piece.2 ≤ settings.shardDepth
  handled_prefix : run.handled <+: run.accepted
  handled_append : run.pipeline.fault = none ∨ run.pipeline.intakeRuns = true →
    run.handled ++ run.pipeline.inbound.items = run.accepted
  fragments_eq : run.fragments.map Prod.fst = run.handled.filterMap station.fragment?
  given_prefix : run.given <+: kept settings.shardDepth run.fragments
  given_append : run.pipeline.fault = none →
    run.given ++ run.pipeline.pieces.items = kept settings.shardDepth run.fragments
  intake_ended : run.pipeline.intakeRuns = false →
    run.pipeline.inbound.items = [] ∧ (run.pipeline.fault = none → run.pipeline.accepting = false)
  shards_ended : run.pipeline.shardsRun = false →
    run.pipeline.pieces.items = [] ∧ (run.pipeline.fault = none → run.pipeline.intakeRuns = false)
  fault_late : run.pipeline.fault ≠ none →
    run.pipeline.shardsRun = false ∧ Clock.limit ≤ run.now + settings.timeout
  isShutDown_eq : run.pipeline.engine.isShutDown = run.inFlight.isSome
  finished : run.inFlight ≠ none →
    run.pipeline.intakeRuns = false ∧ run.pipeline.shardsRun = false
  answered_eq : run.life.IsPatient →
    run.answered = (Engine.make settings.timeout).exchanges run.given
  engine_alike : run.life.IsPatient → run.inFlight = none →
    run.pipeline.engine.SameButDates ((Engine.make settings.timeout).submitAll run.given)
  flights_alike : ∀ flights, run.inFlight = some flights → run.life.IsPatient →
    (Keyed.mk flights).mapValues Assembly.undated =
      ((Engine.make settings.timeout).submitAll run.given).table.assemblies.mapValues
        Assembly.undated
  told : ∀ flights, run.inFlight = some flights → ∀ entry ∈ flights,
    (entry.2.generation, some .drained) ∈ run.life.departed ∧
      ⟨entry.1, some entry.2.generation, .reject entry.2.shard entry.2.lastPiece⟩ ∈ run.life.sent

variable {settings : Settings} {station : Station} {run next : GatewayRun}

theorem kept_concat (depth : Nat) (fragments : List (Frame × Nat)) (frame : Frame)
    (waiting : Nat) :
    kept depth (fragments ++ [(frame, waiting)]) =
      kept depth fragments ++ if waiting < depth then [frame] else [] := by
  rw [kept, kept, List.filter_append, List.map_append]
  by_cases hroom : waiting < depth <;> simp [hroom]

theorem consistent_start (h : start? settings station = some run) :
    Consistent settings station run := by
  unfold start? at h
  split at h
  · rename_i pipeline hstart
    obtain ⟨seeded, hkeeps, rfl⟩ := Pipeline.exists_of_start hstart
    cases h
    exact
      { engine_eq := rfl
        life := EngineRun.sound_start settings.timeout
        directory_eq := hkeeps.directory_eq
        timeout_eq := rfl
        capacity_eq := rfl
        length_le := Nat.zero_le _
        found_le := by simp
        handled_prefix := List.prefix_rfl
        handled_append := fun _ => rfl
        fragments_eq := rfl
        given_prefix := List.prefix_rfl
        given_append := fun _ => rfl
        intake_ended := by simp
        shards_ended := by simp
        fault_late := by simp
        isShutDown_eq := rfl
        finished := by simp
        answered_eq := fun _ => rfl
        engine_alike := fun _ _ => Engine.SameButDates.refl _
        flights_alike := by simp
        told := by simp }
  · cases h

/-! ### Every action preserves it -/

theorem Consistent.submit (h : Consistent settings station run) {raw : Bytes}
    {pipeline : Pipeline} (hsubmit : run.pipeline.submit? raw = some (.ok pipeline)) :
    Consistent settings station { run with pipeline, accepted := run.accepted ++ [raw] } := by
  obtain ⟨_, hruns, _, rfl⟩ := Pipeline.submit?_eq_ok_iff.mp hsubmit
  exact
    { h with
      handled_prefix := h.handled_prefix.trans (List.prefix_append _ _)
      handled_append := fun hgoing => by
        rw [← h.handled_append hgoing, List.append_assoc]
      intake_ended := fun hended => by simp [hruns] at hended }

theorem Consistent.change (h : Consistent settings station run) {other : Station}
    (hdirectory : other.directory = run.pipeline.station.directory)
    (hnow : run.now ≤ other.clock.now) :
    Consistent settings station { run with pipeline := { run.pipeline with station := other } } :=
  { h with
    directory_eq := hdirectory.trans h.directory_eq
    fault_late := fun hfault =>
      ⟨(h.fault_late hfault).1,
        Nat.le_trans (h.fault_late hfault).2 (Nat.add_le_add_right hnow _)⟩ }

theorem Consistent.keep (h : Consistent settings station run) {other : Station}
    (hkeeps : run.pipeline.station.Keeps other) :
    Consistent settings station { run with pipeline := { run.pipeline with station := other } } :=
  h.change hkeeps.directory_eq (Nat.le_of_eq (congrArg Clock.now hkeeps.clock_eq.symm))

theorem Consistent.fault_eq_none (h : Consistent settings station run)
    (hruns : run.pipeline.shardsRun = true) : run.pipeline.fault = none := by
  by_contra hfault
  rw [(h.fault_late hfault).1] at hruns
  cases hruns

theorem Consistent.inFlight_eq_none (h : Consistent settings station run)
    (hruns : run.pipeline.shardsRun = true) : run.inFlight = none := by
  by_contra hfinished
  rw [(h.finished hfinished).2] at hruns
  cases hruns

theorem Consistent.found_le_concat (h : Consistent settings station run) (frame : Frame) :
    ∀ piece ∈ run.fragments ++ [(frame, run.pipeline.pieces.items.length)],
      piece.2 ≤ settings.shardDepth := by
  intro piece hmem
  rcases List.mem_append.mp hmem with hmem | hmem
  · exact h.found_le piece hmem
  · rw [List.mem_singleton.mp hmem]
    exact h.length_le

section AfterIntake

variable {raw : Bytes} {rest : List Bytes} {frame : Frame} {pipeline : Pipeline}

theorem afterIntake_of_nil (hempty : run.pipeline.inbound.items = []) :
    run.afterIntake pipeline = { run with pipeline } := by
  simp [afterIntake, hempty]

theorem afterIntake_of_none (hraw : run.pipeline.inbound.items = raw :: rest)
    (hwhole : run.pipeline.station.fragment? raw = none) :
    run.afterIntake pipeline = { run with pipeline, handled := run.handled ++ [raw] } := by
  simp [afterIntake, hraw, hwhole]

theorem afterIntake_of_some (hraw : run.pipeline.inbound.items = raw :: rest)
    (hpiece : run.pipeline.station.fragment? raw = some frame) :
    run.afterIntake pipeline =
      { run with
        pipeline
        handled := run.handled ++ [raw]
        fragments := run.fragments ++ [(frame, run.pipeline.pieces.items.length)] } := by
  simp [afterIntake, hraw, hpiece]

end AfterIntake

section AfterShards

variable {frame : Frame} {rest : List Frame} {pipeline : Pipeline}

theorem afterShards_of_nil (hempty : run.pipeline.pieces.items = []) :
    run.afterShards pipeline = { run with pipeline } := by
  simp [afterShards, hempty]

theorem afterShards_of_cons (hframe : run.pipeline.pieces.items = frame :: rest)
    (hfault : pipeline.fault = none) :
    run.afterShards pipeline =
      { run with
        pipeline
        life := run.life.submit frame run.now
        answered := run.answered ++ [run.pipeline.engine.exchange frame run.now] } := by
  simp [afterShards, hframe, hfault]

theorem afterShards_of_fault (hfault : pipeline.fault ≠ none) :
    run.afterShards pipeline = { run with pipeline } := by
  unfold afterShards
  split
  · rename_i hnone
    exact absurd hnone hfault
  · rfl

end AfterShards

theorem Consistent.intake (h : Consistent settings station run) {pipeline : Pipeline}
    (hstep : run.pipeline.intakeStep? = some pipeline) :
    Consistent settings station (run.afterIntake pipeline) := by
  obtain ⟨hruns, hmove⟩ := Pipeline.intakeMove hstep
  have hsame : ∀ raw, run.pipeline.station.fragment? raw = station.fragment? raw :=
    Station.fragment?_congr h.directory_eq
  have hnext := fun raw => h.keep (run.pipeline.station.keeps_handleRaw raw)
  have happend := h.handled_append (Or.inr hruns)
  cases hmove with
  | ended hempty hclosed =>
    rw [afterIntake_of_nil hempty]
    exact
      { h with
        handled_append := fun _ => happend
        intake_ended := fun _ => ⟨hempty, fun _ => hclosed⟩
        shards_ended := fun hdown => ⟨(h.shards_ended hdown).1, fun _ => rfl⟩
        finished := fun hfinished => ⟨rfl, (h.finished hfinished).2⟩ }
  | routed raw rest hraw hwhole =>
    rw [hraw] at happend
    rw [hsame] at hwhole
    rw [afterIntake_of_none hraw ((hsame raw).trans hwhole)]
    exact
      { hnext raw with
        handled_prefix := by simp [← happend]
        handled_append := fun _ => by simp [← happend]
        fragments_eq := by simp [h.fragments_eq, hwhole]
        intake_ended := fun hended => by simp [hruns] at hended }
  | passedOn raw rest frame hraw hpiece hdown hroom =>
    rw [hraw] at happend
    rw [hsame] at hpiece
    rw [h.capacity_eq] at hroom
    rw [afterIntake_of_some hraw ((hsame raw).trans hpiece)]
    have hgiven : run.given ++ (run.pipeline.pieces.items ++ [frame]) =
        kept settings.shardDepth
          (run.fragments ++ [(frame, run.pipeline.pieces.items.length)]) := by
      rw [kept_concat, if_pos hroom, ← h.given_append (h.fault_eq_none hdown), List.append_assoc]
    exact
      { hnext raw with
        length_le := by simpa using Nat.succ_le_of_lt hroom
        found_le := h.found_le_concat frame
        handled_prefix := by simp [← happend]
        handled_append := fun _ => by simp [← happend]
        fragments_eq := by simp [h.fragments_eq, hpiece]
        given_prefix := hgiven ▸ List.prefix_append _ _
        given_append := fun _ => hgiven
        intake_ended := fun hended => by simp [hruns] at hended
        shards_ended := fun hended => by simp [hdown] at hended }
  | dropped raw rest frame hraw hpiece hdown hfull =>
    rw [hraw] at happend
    rw [hsame] at hpiece
    rw [h.capacity_eq] at hfull
    rw [afterIntake_of_some hraw ((hsame raw).trans hpiece)]
    have hkept : kept settings.shardDepth
        (run.fragments ++ [(frame, run.pipeline.pieces.items.length)]) =
          kept settings.shardDepth run.fragments := by
      rw [kept_concat, if_neg (Nat.not_lt.mpr hfull), List.append_nil]
    exact
      { hnext raw with
        found_le := h.found_le_concat frame
        handled_prefix := by simp [← happend]
        handled_append := fun _ => by simp [← happend]
        fragments_eq := by simp [h.fragments_eq, hpiece]
        given_prefix := hkept ▸ h.given_prefix
        given_append := fun hfault => hkept ▸ h.given_append hfault
        intake_ended := fun hended => by simp [hruns] at hended }
  | stopped raw rest frame hraw hpiece hdown =>
    rw [hraw] at happend
    rw [hsame] at hpiece
    -- the shard task ends before the intake only by a fault
    have hfault : run.pipeline.fault ≠ none := by
      intro hfault
      rw [(h.shards_ended hdown).2 hfault] at hruns
      cases hruns
    rw [afterIntake_of_some hraw ((hsame raw).trans hpiece)]
    exact
      { hnext raw with
        found_le := h.found_le_concat frame
        handled_prefix := by simp [← happend]
        handled_append := by simp [hfault]
        fragments_eq := by simp [h.fragments_eq, hpiece]
        given_prefix := by
          rw [kept_concat]
          exact h.given_prefix.trans (List.prefix_append _ _)
        given_append := fun hnone => absurd hnone hfault
        intake_ended := fun _ => ⟨rfl, fun hnone => absurd hnone hfault⟩
        shards_ended := fun _ => ⟨(h.shards_ended hdown).1, fun _ => rfl⟩
        finished := fun hfinished => ⟨rfl, hdown⟩ }

theorem Consistent.shards (h : Consistent settings station run) {pipeline : Pipeline}
    (hstep : run.pipeline.shardStep? = some pipeline) :
    Consistent settings station (run.afterShards pipeline) := by
  obtain ⟨hruns, hmove⟩ := Pipeline.shardMove hstep
  have hfault := h.fault_eq_none hruns
  have hflights := h.inFlight_eq_none hruns
  have hgiven := h.given_append hfault
  cases hmove with
  | ended hempty hlast =>
    rw [afterShards_of_nil hempty]
    exact
      { h with
        shards_ended := fun _ => ⟨hempty, fun _ => hlast⟩
        fault_late := fun hlate => absurd hfault hlate
        finished := fun hfinished => absurd hflights hfinished }
  | answered frame rest hframe =>
    have hnext := h.keep (run.pipeline.station.keeps_answered run.pipeline.engine frame)
    rw [hframe] at hgiven
    rw [afterShards_of_cons hframe]
    swap
    · exact hfault
    have hengine : (run.life.submit frame run.now).engine =
        (run.pipeline.engine.submit frame run.now).1 := by
      rw [← h.engine_eq]
      rfl
    have hlength := h.length_le
    rw [hframe] at hlength
    have happend : run.given ++ [frame] ++ rest = kept settings.shardDepth run.fragments := by
      rw [List.append_assoc]
      exact hgiven
    -- while no timer has intervened, an engine asked at moment zero gives the same answer
    have hpatient : (run.life.submit frame run.now).IsPatient → run.life.IsPatient :=
      fun hpatient departure hmem => hpatient departure (List.mem_append_left _ hmem)
    have hconcat : (run.answered ++ [run.pipeline.engine.exchange frame run.now]).map
        Exchange.frame = run.given ++ [frame] := List.map_append
    exact
      { hnext with
        engine_eq := hengine
        life := h.life.submit frame run.now
        timeout_eq := (run.pipeline.engine.timeout_submit frame _).trans h.timeout_eq
        length_le := Nat.le_of_succ_le hlength
        given_prefix := by
          rw [given, hconcat, ← happend]
          exact List.prefix_append _ _
        given_append := fun _ => by
          rw [given, hconcat]
          exact happend
        shards_ended := fun hended => by simp [hruns] at hended
        fault_late := fun hlate => absurd hfault hlate
        isShutDown_eq := (run.pipeline.engine.isShutDown_submit frame _).trans h.isShutDown_eq
        finished := fun hfinished => absurd hflights hfinished
        answered_eq := fun hquiet => by
          have hsame := (h.engine_alike (hpatient hquiet) hflights).submit frame run.now 0
          rw [given, hconcat, Engine.exchanges_append, ← h.answered_eq (hpatient hquiet), hsame.2]
          rfl
        engine_alike := fun hquiet _ => by
          have hsame := (h.engine_alike (hpatient hquiet) hflights).submit frame run.now 0
          rw [given, hconcat, Engine.submitAll_concat]
          exact hsame.1
        flights_alike := fun flights hsome => by simp [hflights] at hsome
        told := fun flights hsome => by simp [hflights] at hsome }
  | faulted frame rest deadline hframe hprogress hlate =>
    rw [afterShards_of_fault]
    swap
    · simp
    have hdeadline := Engine.deadline_of_progress hprogress
    exact
      { h with
        length_le := Nat.zero_le _
        handled_append := fun hgoing => h.handled_append (Or.inl hfault)
        given_append := fun hnone => by cases hnone
        intake_ended := fun hended => ⟨(h.intake_ended hended).1, fun hnone => by cases hnone⟩
        shards_ended := fun _ => ⟨rfl, fun hnone => by cases hnone⟩
        fault_late := fun _ => ⟨rfl, by rwa [hdeadline, h.timeout_eq] at hlate⟩
        finished := fun hfinished => absurd hflights hfinished }

theorem Consistent.wake (h : Consistent settings station run) {identity : Identity}
    {timer : Timer} (hwake : timer.wake ≤ run.now) :
    Consistent settings station
      { run with
        pipeline :=
          { run.pipeline with
            engine := (run.pipeline.engine.poll identity timer.generation run.now).1 }
        life := run.life.poll identity timer run.now } := by
  have hengine : (run.life.poll identity timer run.now).engine =
      (run.pipeline.engine.poll identity timer.generation run.now).1 := by
    rw [← h.engine_eq]
    rfl
  have hpatient : (run.life.poll identity timer run.now).IsPatient → run.life.IsPatient :=
    fun hpatient departure hmem => hpatient departure (List.mem_append_left _ hmem)
  exact
    { h with
      engine_eq := hengine
      life := h.life.poll hwake
      timeout_eq := (Engine.timeout_poll _ _ _ _).trans h.timeout_eq
      isShutDown_eq := (Engine.isShutDown_poll _ _ _ _).trans h.isShutDown_eq
      answered_eq := fun hquiet => h.answered_eq (hpatient hquiet)
      engine_alike := fun hquiet hflights => by
        have hsame := h.engine_alike (hpatient hquiet) hflights
        have htable := h.life.table_poll_of_isPatient hquiet
        rw [h.engine_eq] at htable
        exact ⟨(Engine.isShutDown_poll _ _ _ _).trans hsame.isShutDown_eq, htable ▸ hsame.table⟩
      flights_alike := fun flights hsome hquiet => h.flights_alike flights hsome (hpatient hquiet)
      told := fun flights hsome entry hmem =>
        ⟨List.mem_append_left _ (h.told flights hsome entry hmem).1,
          (h.told flights hsome entry hmem).2⟩ }

theorem Consistent.notify (h : Consistent settings station run) {notice : Notice}
    (hunsent : notice ∈ run.life.unsent) :
    Consistent settings station
      { run with
        pipeline :=
          { run.pipeline with
            station :=
              run.pipeline.station.send notice.identity (notice.ack.encode notice.identity) }
        life := run.life.send notice } :=
  { h with
    life := h.life.send hunsent
    told := fun flights hsome entry hmem =>
      ⟨(h.told flights hsome entry hmem).1,
        List.mem_append_left _ (h.told flights hsome entry hmem).2⟩ }

theorem Consistent.close (h : Consistent settings station run) :
    Consistent settings station { run with pipeline := run.pipeline.close } :=
  { h with intake_ended := fun hended => ⟨(h.intake_ended hended).1, fun _ => rfl⟩ }

theorem Consistent.finish (h : Consistent settings station run)
    (hintake : run.pipeline.intakeRuns = false) (hshards : run.pipeline.shardsRun = false)
    (hflights : run.inFlight = none) :
    Consistent settings station
      { run with
        pipeline :=
          { run.pipeline with
            station := (run.pipeline.station.shutdown run.pipeline.engine).1
            engine := (run.pipeline.station.shutdown run.pipeline.engine).2 }
        life := run.life.finish
        inFlight := some run.pipeline.engine.table.assemblies.entries } := by
  have hnext := h.keep (run.pipeline.station.keeps_shutdown run.pipeline.engine)
  have hpatient : run.life.finish.IsPatient → run.life.IsPatient :=
    fun hpatient departure hmem => hpatient departure (List.mem_append_left _ hmem)
  exact
    { hnext with
      engine_eq := congrArg (fun engine : Engine => engine.shutdown.1) h.engine_eq
      life := h.life.finish
      timeout_eq := h.timeout_eq
      isShutDown_eq := rfl
      finished := fun _ => ⟨hintake, hshards⟩
      answered_eq := fun hquiet => h.answered_eq (hpatient hquiet)
      engine_alike := fun _ hnone => by cases hnone
      flights_alike := fun flights hsome hquiet => by
        obtain rfl := Option.some.inj hsome
        exact (h.engine_alike (hpatient hquiet) hflights).table.assemblies_eq
      told := fun flights hsome entry hmem => by
        obtain rfl := Option.some.inj hsome
        exact h.life.drained_finish (h.engine_eq ▸ hmem) }

theorem Consistent.step (h : Consistent settings station run) {action : Action}
    (hstep : run.step? action = some next) : Consistent settings station next := by
  cases action with
  | submit raw =>
    simp only [step?] at hstep
    split at hstep
    · rename_i pipeline hsubmit
      cases hstep
      exact h.submit hsubmit
    · cases hstep
  | intake =>
    obtain ⟨pipeline, hintake, rfl⟩ := Option.map_eq_some_iff.mp hstep
    exact h.intake hintake
  | shards =>
    obtain ⟨pipeline, hshards, rfl⟩ := Option.map_eq_some_iff.mp hstep
    exact h.shards hshards
  | wake identity timer =>
    simp only [step?] at hstep
    split_ifs at hstep with hwake
    cases hstep
    exact h.wake hwake.2
  | notify notice =>
    simp only [step?] at hstep
    split_ifs at hstep with hunsent
    cases hstep
    exact h.notify hunsent
  | change other =>
    simp only [step?] at hstep
    split_ifs at hstep with hchange
    cases hstep
    exact h.change hchange.1 hchange.2
  | close =>
    cases hstep
    exact h.close
  | finish =>
    simp only [step?] at hstep
    split_ifs at hstep with hbusy
    cases hstep
    simp only [Bool.or_eq_true, not_or, Bool.not_eq_true, Option.isSome_eq_false_iff,
      Option.isNone_iff_eq_none] at hbusy
    exact h.finish hbusy.1.1.2 hbusy.1.2 hbusy.2

theorem Consistent.perform (h : Consistent settings station run) {actions : List Action}
    (hperform : run.perform? actions = some next) : Consistent settings station next := by
  induction actions generalizing run with
  | nil => exact Option.some.inj hperform ▸ h
  | cons action rest ih =>
    rw [perform?, List.foldlM_cons] at hperform
    obtain ⟨middle, hstep, hrest⟩ := Option.bind_eq_some_iff.mp hperform
    exact ih (h.step hstep) hrest

theorem consistent_run {actions : List Action} (hrun : run? settings station actions = some run) :
    Consistent settings station run := by
  obtain ⟨first, hstart, hperform⟩ := Option.bind_eq_some_iff.mp hrun
  exact (consistent_start hstart).perform hperform

end GatewayRun

end SensorGateway
