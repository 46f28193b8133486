import Mathlib.Data.List.Nodup
import Mathlib.Data.List.Perm.Basic
import SensorGateway.Proofs.Shard.Generations
import SensorGateway.Shard.Engine

/-!
# The life of a reassembly

An engine runs under one lock, so a run of it is a sequence of whole steps: a frame is submitted, a
timer task wakes up, an answer that is owed goes out, or the engine is shut down. Beside the engine
a run keeps the timer tasks, which may wake up late and long after they were stopped, and a record
of what has been opened, what has left and whom nobody asked has been told. The record is read off
the table before and after each step and says nothing about why the step did what it did.

`Orderly` is what every run satisfies (`Reachable.orderly`). The invariant that carries it is
`Sound`, and the one fact about a step that most of it needs is that the table follows the one
before it.
-/

namespace SensorGateway

/-- How a reassembly leaves the table. -/
inductive Departure where
  | completed
  /-- The first piece of another shard has come. -/
  | superseded
  | evicted
  | drained
deriving DecidableEq

namespace Departure

/-- How a frame makes a reassembly leave: it belongs to the shard and a whole frame comes out, or it
brings the first piece of another shard. -/
def ofFrame (frame : Frame) (submission : Submission) (identity : Identity)
    (assembly : Assembly) : Option Departure :=
  match ShardPiece.parse frame.payload, submission.result with
  | .ok piece, .ok whole =>
    if identity ≠ frame.identity then none
    else if assembly.shard = piece.shard then whole.map fun _ => .completed
    else if piece.isStart then some .superseded
    else none
  | _, _ => none

/-- How a timer task makes a reassembly leave: it is the one that was started for it. -/
def ofTimer (identity : Identity) (timer : Timer) (other : Identity) (assembly : Assembly) :
    Option Departure :=
  if other = identity ∧ assembly.generation = timer.generation then some .evicted else none

def isTold : Option Departure → Bool
  | some evicted | some drained => true
  | _ => false

theorem isTold_iff {way : Option Departure} :
    isTold way = true ↔ way = some evicted ∨ way = some drained := by
  rcases way with _ | (_ | _ | _ | _) <;> simp [isTold]

/-- The generations whose sensors are to be told. -/
def told (departures : List (Nat × Option Departure)) : List (Option Nat) :=
  (departures.filter fun departure => isTold departure.2).map fun departure => some departure.1

theorem told_append (departures more : List (Nat × Option Departure)) :
    told (departures ++ more) = told departures ++ told more := by
  rw [told, List.filter_append, List.map_append]
  rfl

theorem mem_told_iff {departures : List (Nat × Option Departure)} {about : Option Nat} :
    about ∈ told departures ↔ ∃ generation, about = some generation ∧
      ((generation, some evicted) ∈ departures ∨ (generation, some drained) ∈ departures) := by
  rw [told, List.mem_map]
  constructor
  · rintro ⟨⟨generation, way⟩, hfilter, rfl⟩
    obtain ⟨hmem, hway⟩ := List.mem_filter.mp hfilter
    rcases isTold_iff.mp hway with rfl | rfl
    · exact ⟨generation, rfl, Or.inl hmem⟩
    · exact ⟨generation, rfl, Or.inr hmem⟩
  · rintro ⟨generation, rfl, hmem | hmem⟩
    · exact ⟨_, List.mem_filter.mpr ⟨hmem, rfl⟩, rfl⟩
    · exact ⟨_, List.mem_filter.mpr ⟨hmem, rfl⟩, rfl⟩

theorem told_eq_nil {departures : List (Nat × Option Departure)}
    (hnone : ∀ departure ∈ departures, isTold departure.2 = false) : told departures = [] := by
  rw [told, List.map_eq_nil_iff, List.filter_eq_nil_iff]
  intro departure hmem
  simp [hnone departure hmem]

end Departure

/-- An answer that no frame has asked for. -/
structure Notice where
  identity : Identity
  /-- The generation of the reassembly that the sensor had when the answer was made up. -/
  about : Option Nat
  ack : ShardAck
deriving DecidableEq

structure EngineRun where
  engine : Engine
  /-- The timer tasks that may still wake up. -/
  tasks : List (Identity × Timer)
  /-- The answers that are still to be sent. -/
  unsent : List Notice
  sent : List Notice
  /-- The generation of every reassembly that has been put into the table, oldest first. -/
  opened : List Nat
  /-- The generation of every reassembly that is no longer in the table, and how it left. -/
  departed : List (Nat × Option Departure)

namespace EngineRun

def start (timeout : Time) : EngineRun :=
  ⟨Engine.make timeout, [], [], [], [], []⟩

/-- What has left the table when another engine takes the place of this one. -/
def leaving (run : EngineRun) (engine : Engine)
    (way : Identity → Assembly → Option Departure) : List (Nat × Option Departure) :=
  (run.engine.table.assemblies.entries.filter fun entry =>
    entry.2.generation ∉ engine.table.generations).map fun entry =>
      (entry.2.generation, way entry.1 entry.2)

/-- The run after the engine has changed: whatever timer is new has been started, and what has come
into the table or left it is recorded. -/
def proceed (run : EngineRun) (engine : Engine) (tasks : List (Identity × Timer))
    (notices : List Notice) (way : Identity → Assembly → Option Departure) : EngineRun where
  engine
  tasks := tasks ++ engine.timers.entries.filter (· ∉ run.engine.timers.entries)
  unsent := run.unsent ++ notices
  sent := run.sent
  opened := run.opened ++
    engine.table.generations.filter (· ∉ run.engine.table.generations)
  departed := run.departed ++ run.leaving engine way

def notice (run : EngineRun) (identity : Identity) (ack : ShardAck) : Notice :=
  ⟨identity, (run.engine.table.assembly? identity).map Assembly.generation, ack⟩

def submit (run : EngineRun) (frame : Frame) (now : Time) : EngineRun :=
  let (engine, submission) := run.engine.submit frame now
  run.proceed engine run.tasks [] (Departure.ofFrame frame submission)

/-- A timer task wakes up. It ends unless it is started anew. -/
def poll (run : EngineRun) (identity : Identity) (timer : Timer) (now : Time) : EngineRun :=
  let (engine, answer) := run.engine.poll identity timer.generation now
  run.proceed engine (run.tasks.erase (identity, timer))
    (answer.toList.map fun ack => run.notice identity ack) (Departure.ofTimer identity timer)

def send (run : EngineRun) (notice : Notice) : EngineRun :=
  { run with
    unsent := run.unsent.erase notice
    sent := run.sent ++ [notice] }

def shutdown (run : EngineRun) : EngineRun :=
  let (engine, answers) := run.engine.shutdown
  run.proceed engine run.tasks (answers.map fun answer => run.notice answer.1 answer.2)
    fun _ _ => some .drained

/-- One step under the lock, or the sending of one answer. -/
inductive Step (run : EngineRun) : EngineRun → Prop where
  | submit (frame : Frame) (now : Time) : Step run (run.submit frame now)
  | poll (identity : Identity) (timer : Timer) (now : Time) (htask : (identity, timer) ∈ run.tasks)
      (hwake : timer.wake ≤ now) : Step run (run.poll identity timer now)
  | send (notice : Notice) (hunsent : notice ∈ run.unsent) : Step run (run.send notice)
  | shutdown : Step run run.shutdown

inductive Reachable (timeout : Time) : EngineRun → Prop where
  | start : Reachable timeout (start timeout)
  | step {run next : EngineRun} (h : Reachable timeout run) (hstep : Step run next) :
      Reachable timeout next

end EngineRun

/-! ### What a wake-up does to the engine -/

namespace Engine

variable {engine : Engine} {identity : Identity} {assembly : Assembly} {generation : Nat}
  {now : Time}

theorem poll_of_ne
    (hother : ∀ assembly, engine.table.assembly? identity = some assembly →
      assembly.generation ≠ generation) (now : Time) :
    engine.poll identity generation now = (engine, none) := by
  rw [poll, ShardTable.expire_of_ne hother]

theorem poll_of_early (hfound : engine.table.assembly? identity = some assembly)
    (hearly : now < assembly.deadline) :
    engine.poll identity assembly.generation now =
      ({ engine with
          timers := engine.timers.insert identity ⟨assembly.generation, assembly.deadline⟩ },
        none) := by
  rw [poll, ShardTable.expire_of_early hfound hearly]

theorem poll_of_late (hfound : engine.table.assembly? identity = some assembly)
    (hlate : assembly.deadline ≤ now) :
    engine.poll identity assembly.generation now =
      ({ engine with
          table := { engine.table with assemblies := engine.table.assemblies.erase identity }
          timers := engine.timers.erase identity },
        some (.reject assembly.shard assembly.lastPiece)) := by
  rw [poll, ShardTable.expire_of_late hfound hlate]

theorem submit_of_isShutDown (hclosed : engine.isShutDown = true) (frame : Frame) (now : Time) :
    (engine.submit frame now).1 = engine ∧
      (engine.submit frame now).2.result = .error .shutDown := by
  rw [submit, if_pos hclosed]
  exact ⟨rfl, rfl⟩

theorem submit_of_not_isShutDown (hopen : engine.isShutDown = false) (frame : Frame)
    (now : Time) :
    (engine.submit frame now).1 =
        { engine with
          table := (engine.table.process frame now).1
          timers :=
            adjust engine.timers frame.identity (engine.table.process frame now).2.timer } ∧
      (engine.submit frame now).2.result = .ok (engine.table.process frame now).2.completed := by
  simp [submit, hopen]

theorem timeout_submit (engine : Engine) (frame : Frame) (now : Time) :
    (engine.submit frame now).1.table.timeout = engine.table.timeout := by
  cases hclosed : engine.isShutDown with
  | true => rw [(submit_of_isShutDown hclosed frame now).1]
  | false =>
    rw [(submit_of_not_isShutDown hclosed frame now).1]
    exact engine.table.timeout_process frame now

def Timed (engine : Engine) : Prop :=
  ∀ identity, (engine.timers.get? identity).map Timer.generation =
    (engine.table.assembly? identity).map Assembly.generation

theorem Timed.submit (h : engine.Timed) (frame : Frame) (now : Time) :
    (engine.submit frame now).1.Timed := by
  cases hclosed : engine.isShutDown with
  | true =>
    rw [(submit_of_isShutDown hclosed frame now).1]
    exact h
  | false =>
    rw [(submit_of_not_isShutDown hclosed frame now).1]
    intro identity
    dsimp only
    have hcases := engine.table.processed frame now
    cases hprocess : engine.table.process frame now with
    | mk after outcome =>
      rw [hprocess] at hcases
      by_cases hne : identity ≠ frame.identity
      · have htable : after.assembly? identity = engine.table.assembly? identity := by
          have hkept := ShardTable.assembly?_process_of_ne engine.table frame now hne
          rwa [hprocess] at hkept
        rw [htable, ← h identity]
        cases outcome.timer with
        | start => rw [adjust, Keyed.get?_insert_of_ne _ _ hne]
        | cancel => rw [adjust, Keyed.get?_erase_of_ne _ hne]
        | keep => rfl
      obtain rfl : identity = frame.identity := by simpa using hne
      cases hcases with
      | whole => exact h frame.identity
      | refused => exact h frame.identity
      | opened => simp [adjust, ShardTable.opening]
      | openedWhole => simp [adjust]
      | joined piece previous _ _ hcollecting =>
        simp [adjust, h frame.identity, hcollecting.1]
      | completed => simp [adjust]

theorem unique_adjust {timers : Keyed Identity Timer} (h : timers.Unique) (identity : Identity)
    (action : TimerAction) : (adjust timers identity action).Unique := by
  cases action with
  | start generation deadline => exact h.insert identity _
  | cancel => exact h.erase identity
  | keep => exact h

end Engine

namespace EngineRun

/-! ### The invariant -/

structure Sound (run : EngineRun) : Prop where
  ordered : run.engine.table.Ordered
  timers_unique : run.engine.timers.Unique
  timed : run.engine.Timed
  armed : ∀ entry ∈ run.engine.timers.entries, entry ∈ run.tasks
  opened_lt : run.opened.Pairwise (· < ·)
  opened_le : ∀ generation ∈ run.opened, generation ≤ run.engine.table.generation
  /-- What has been opened is there or has departed. -/
  balance : run.opened.Perm (run.engine.table.generations ++ run.departed.map Prod.fst)
  explained : ∀ departure ∈ run.departed, ∃ way, departure.2 = some way
  /-- What has departed without having been asked to is what the notices are about. -/
  told : ((run.unsent ++ run.sent).map Notice.about).Perm (Departure.told run.departed)
  failures : ∀ notice ∈ run.unsent ++ run.sent, notice.ack.success = false
  closed : run.engine.isShutDown = true →
    run.engine.table.assemblies = Keyed.empty ∧ run.engine.timers = Keyed.empty

variable {run : EngineRun} {engine : Engine} {tasks : List (Identity × Timer)}
  {notices : List Notice} {way : Identity → Assembly → Option Departure} {timeout : Time}

theorem sound_start (timeout : Time) : (start timeout).Sound where
  ordered := ⟨Keyed.unique_empty, List.nodup_nil, by simp [start, Engine.make, ShardTable.make,
    ShardTable.generations, Keyed.empty]⟩
  timers_unique := Keyed.unique_empty
  timed := fun _ => rfl
  armed := by simp [start, Engine.make, Keyed.empty]
  opened_lt := List.Pairwise.nil
  opened_le := by simp [start]
  balance := List.Perm.nil
  explained := by simp [start]
  told := List.Perm.nil
  failures := by simp [start]
  closed := by simp [start, Engine.make]

theorem mem_leaving (hordered : run.engine.table.Ordered) {departure : Nat × Option Departure} :
    departure ∈ run.leaving engine way ↔
      ∃ identity assembly, run.engine.table.assembly? identity = some assembly ∧
        assembly.generation ∉ engine.table.generations ∧
          departure = (assembly.generation, way identity assembly) := by
  rw [leaving, List.mem_map]
  constructor
  · rintro ⟨⟨identity, assembly⟩, hmem, rfl⟩
    obtain ⟨hentry, hgone⟩ := List.mem_filter.mp hmem
    exact ⟨identity, assembly, hordered.unique.get?_eq_some_iff.mpr hentry, by simpa using hgone,
      rfl⟩
  · rintro ⟨identity, assembly, hfound, hgone, rfl⟩
    refine ⟨(identity, assembly), List.mem_filter.mpr ⟨?_, by simpa using hgone⟩, rfl⟩
    exact hordered.unique.get?_eq_some_iff.mp hfound

theorem map_fst_leaving :
    (run.leaving engine way).map Prod.fst =
      run.engine.table.generations.filter (· ∉ engine.table.generations) := by
  have hbefore : run.engine.table.generations =
      run.engine.table.assemblies.entries.map fun entry => entry.2.generation := rfl
  rw [leaving, hbefore, List.filter_map, List.map_map]
  rfl

/-- Nothing is lost: what was there is there or has just departed, and what is there was there or
has just been opened. -/
theorem balance_of_nodup {before after opened departed : List Nat} (hbefore : before.Nodup)
    (hafter : after.Nodup) (hbalance : opened.Perm (before ++ departed)) :
    (opened ++ after.filter (· ∉ before)).Perm
      (after ++ (departed ++ before.filter (· ∉ after))) := by
  have hstay : (before.filter (· ∈ after)).Perm (after.filter (· ∈ before)) := by
    refine (List.perm_ext_iff_of_nodup (hbefore.filter _) (hafter.filter _)).mpr ?_
    intro generation
    simp [and_comm]
  have hgone := List.filter_append_perm (· ∈ after) before
  have hnew := List.filter_append_perm (· ∈ before) after
  rw [List.perm_iff_count] at hbalance hstay hgone hnew ⊢
  intro generation
  have hbalance := hbalance generation
  have hstay := hstay generation
  have hgone := hgone generation
  have hnew := hnew generation
  simp only [List.count_append, decide_not] at hbalance hstay hgone hnew ⊢
  omega

/-- What is new comes after all that was opened before. -/
theorem opened_lt_proceed (h : run.Sound) (hfollows : run.engine.table.Follows engine.table) :
    (run.proceed engine tasks notices way).opened.Pairwise (· < ·) ∧
      ∀ generation ∈ (run.proceed engine tasks notices way).opened,
        generation ≤ engine.table.generation := by
  have hnew : ∀ generation ∈
      engine.table.generations.filter (· ∉ run.engine.table.generations),
      generation = run.engine.table.generation + 1 := by
    intro generation hmem
    obtain ⟨hthere, hnot⟩ := List.mem_filter.mp hmem
    exact (hfollows.fresh generation hthere).resolve_left (by simpa using hnot)
  constructor
  · refine List.pairwise_append.mpr ⟨h.opened_lt, ?_, ?_⟩
    · refine (hfollows.ordered.nodup.filter _).pairwise_of_forall_ne ?_
      intro left hleft right hright hne
      exact absurd ((hnew left hleft).trans (hnew right hright).symm) hne
    · intro old hold new hmem
      have hle := h.opened_le old hold
      have heq := hnew new hmem
      omega
  · intro generation hmem
    rcases List.mem_append.mp hmem with hold | hmem
    · exact Nat.le_trans (h.opened_le generation hold) hfollows.le
    · exact hfollows.ordered.le generation (List.mem_filter.mp hmem).1

/-- A step keeps the record if it says how everything that is gone has left, and makes up a notice
for each of those that are to be told and for no other. -/
theorem Sound.proceed (h : run.Sound) (hfollows : run.engine.table.Follows engine.table)
    (hunique : engine.timers.Unique) (htimed : engine.Timed)
    (htasks : ∀ entry ∈ engine.timers.entries, entry ∈ run.engine.timers.entries →
      entry ∈ tasks)
    (hway : ∀ identity assembly, run.engine.table.assembly? identity = some assembly →
      assembly.generation ∉ engine.table.generations → ∃ departure, way identity assembly =
        some departure)
    (htold : (notices.map Notice.about).Perm (Departure.told (run.leaving engine way)))
    (hfailures : ∀ notice ∈ notices, notice.ack.success = false)
    (hclosed : engine.isShutDown = true →
      engine.table.assemblies = Keyed.empty ∧ engine.timers = Keyed.empty) :
    (run.proceed engine tasks notices way).Sound where
  ordered := hfollows.ordered
  timers_unique := hunique
  timed := htimed
  armed := by
    intro entry hmem
    by_cases hold : entry ∈ run.engine.timers.entries
    · exact List.mem_append_left _ (htasks entry hmem hold)
    · exact List.mem_append_right _ (List.mem_filter.mpr ⟨hmem, by simpa using hold⟩)
  opened_lt := (opened_lt_proceed h hfollows).1
  opened_le := (opened_lt_proceed h hfollows).2
  balance := by
    simp only [EngineRun.proceed, List.map_append, map_fst_leaving]
    exact balance_of_nodup h.ordered.nodup hfollows.ordered.nodup h.balance
  explained := by
    intro departure hmem
    rcases List.mem_append.mp hmem with hmem | hmem
    · exact h.explained departure hmem
    · obtain ⟨identity, assembly, hfound, hgone, rfl⟩ := (mem_leaving h.ordered).mp hmem
      exact hway identity assembly hfound hgone
  told := by
    have hnotices : (((run.unsent ++ notices) ++ run.sent).map Notice.about).Perm
        ((run.unsent ++ run.sent).map Notice.about ++ notices.map Notice.about) := by
      rw [← List.map_append]
      refine List.Perm.map _ ?_
      rw [List.append_assoc, List.append_assoc]
      exact List.perm_append_comm.append_left _
    have hdepartures := Departure.told_append run.departed (run.leaving engine way)
    exact (hnotices.trans (h.told.append htold)).trans (List.Perm.of_eq hdepartures.symm)
  failures := by
    intro notice hmem
    rcases List.mem_append.mp hmem with hmem | hmem
    · rcases List.mem_append.mp hmem with hmem | hmem
      · exact h.failures notice (List.mem_append_left _ hmem)
      · exact hfailures notice hmem
    · exact h.failures notice (List.mem_append_right _ hmem)
  closed := hclosed

/-! ### Every step preserves it -/

theorem isTold_ofFrame (frame : Frame) (submission : Submission) (identity : Identity)
    (assembly : Assembly) :
    Departure.isTold (Departure.ofFrame frame submission identity assembly) = false := by
  rw [Departure.ofFrame]
  split
  · rename_i whole _ _
    split_ifs
    · rfl
    · cases whole <;> rfl
    · rfl
    · rfl
  · rfl

theorem Sound.submit (h : run.Sound) (frame : Frame) (now : Time) :
    (run.submit frame now).Sound := by
  change (run.proceed (run.engine.submit frame now).1 run.tasks []
    (Departure.ofFrame frame (run.engine.submit frame now).2)).Sound
  have htold : Departure.told (run.leaving (run.engine.submit frame now).1
      (Departure.ofFrame frame (run.engine.submit frame now).2)) = [] := by
    refine Departure.told_eq_nil fun departure hmem => ?_
    obtain ⟨identity, assembly, _, _, rfl⟩ := (mem_leaving h.ordered).mp hmem
    exact isTold_ofFrame frame _ identity assembly
  refine h.proceed ?_ ?_ (h.timed.submit frame now) (fun entry _ hmem => h.armed entry hmem) ?_
    (List.Perm.of_eq htold.symm) (by simp) ?_
  all_goals cases hclosed : run.engine.isShutDown
  · rw [(Engine.submit_of_not_isShutDown hclosed frame now).1]
    exact h.ordered.follows_process frame now
  · rw [(Engine.submit_of_isShutDown hclosed frame now).1]
    exact h.ordered.follows_self
  · rw [(Engine.submit_of_not_isShutDown hclosed frame now).1]
    exact Engine.unique_adjust h.timers_unique _ _
  · rw [(Engine.submit_of_isShutDown hclosed frame now).1]
    exact h.timers_unique
  · obtain ⟨hengine, hresult⟩ := Engine.submit_of_not_isShutDown hclosed frame now
    intro identity assembly hfound hgone
    rw [hengine] at hgone
    obtain ⟨hidentity, piece, hparse, hway⟩ := ShardTable.gone_process hfound hgone
    rcases hway with ⟨hshard, whole, hwhole⟩ | ⟨hshard, hstart⟩
    · exact ⟨.completed, by simp [Departure.ofFrame, hparse, hresult, hidentity, hshard, hwhole]⟩
    · exact ⟨.superseded, by
        simp [Departure.ofFrame, hparse, hresult, hidentity, hshard, ShardPiece.isStart, hstart]⟩
  · intro identity assembly hfound hgone
    rw [(Engine.submit_of_isShutDown hclosed frame now).1] at hgone
    exact absurd (ShardTable.mem_generations_of_assembly? hfound) hgone
  · rw [(Engine.submit_of_not_isShutDown hclosed frame now).1]
    intro hshut
    simp [hclosed] at hshut
  · rw [(Engine.submit_of_isShutDown hclosed frame now).1]
    exact h.closed

theorem leaving_perm_of_erase (h : run.Sound) {identity : Identity} {assembly : Assembly}
    (hfound : run.engine.table.assembly? identity = some assembly)
    (herase : engine.table.assemblies = run.engine.table.assemblies.erase identity) :
    (run.leaving engine way).Perm [(assembly.generation, way identity assembly)] := by
  have hperm := h.ordered.unique.perm_cons_erase hfound
  have hafter : engine.table.generations =
      (run.engine.table.assemblies.erase identity).entries.map fun entry =>
        entry.2.generation := by
    rw [ShardTable.generations, herase]
  have hnodup : (((identity, assembly) ::
      (run.engine.table.assemblies.erase identity).entries).map fun entry =>
        entry.2.generation).Nodup :=
    (hperm.map _).nodup_iff.mp h.ordered.nodup
  obtain ⟨hgone, _⟩ := List.nodup_cons.mp hnodup
  have hstay : (run.engine.table.assemblies.erase identity).entries.filter
      (fun entry => entry.2.generation ∉ engine.table.generations) = [] := by
    refine List.filter_eq_nil_iff.mpr fun entry hmem => ?_
    have hthere : entry.2.generation ∈ engine.table.generations :=
      hafter ▸ List.mem_map_of_mem hmem
    simpa using hthere
  have hleaving := (hperm.filter fun entry =>
    decide (entry.2.generation ∉ engine.table.generations)).map fun entry =>
      (entry.2.generation, way entry.1 entry.2)
  rw [List.filter_cons_of_pos (by simpa [hafter] using hgone), hstay] at hleaving
  exact hleaving

theorem poll_of_ne {identity : Identity} {timer : Timer}
    (hother : ∀ assembly, run.engine.table.assembly? identity = some assembly →
      assembly.generation ≠ timer.generation) (now : Time) :
    run.poll identity timer now =
      run.proceed run.engine (run.tasks.erase (identity, timer)) []
        (Departure.ofTimer identity timer) := by
  rw [poll, Engine.poll_of_ne hother]
  rfl

theorem leaving_of_table_eq (htable : engine.table = run.engine.table) :
    run.leaving engine way = [] := by
  rw [leaving, htable, List.map_eq_nil_iff, List.filter_eq_nil_iff]
  intro entry hmem
  have hthere : entry.2.generation ∈ run.engine.table.generations := List.mem_map_of_mem hmem
  simpa using hthere

theorem told_of_table_eq (htable : engine.table = run.engine.table) :
    (([] : List Notice).map Notice.about).Perm (Departure.told (run.leaving engine way)) := by
  rw [leaving_of_table_eq htable]
  exact List.Perm.nil

/-- A task may end if no timer that is left is its own. -/
theorem Sound.mem_erase_tasks (h : run.Sound) {timers : Keyed Identity Timer}
    {identity : Identity} {timer : Timer} (hunique : timers.Unique)
    (hnone : timers.get? identity ≠ some timer) :
    ∀ entry ∈ timers.entries, entry ∈ run.engine.timers.entries →
      entry ∈ run.tasks.erase (identity, timer) := by
  intro entry hmem hold
  refine (List.mem_erase_of_ne fun heq => hnone ?_).mpr (h.armed entry hold)
  exact hunique.get?_eq_some_iff.mpr (heq ▸ hmem)

theorem Sound.isShutDown_eq_false (h : run.Sound) {identity : Identity} {assembly : Assembly}
    (hfound : run.engine.table.assembly? identity = some assembly) :
    run.engine.isShutDown = false := by
  cases hclosed : run.engine.isShutDown with
  | false => rfl
  | true =>
    rw [ShardTable.assembly?, (h.closed hclosed).1] at hfound
    cases hfound

theorem Sound.poll_of_ne (h : run.Sound) {identity : Identity} {timer : Timer}
    (hother : ∀ assembly, run.engine.table.assembly? identity = some assembly →
      assembly.generation ≠ timer.generation) (now : Time) :
    (run.poll identity timer now).Sound := by
  have hnone : run.engine.timers.get? identity ≠ some timer := by
    intro htimer
    have htimed := h.timed identity
    rw [htimer] at htimed
    obtain ⟨assembly, hfound, hgeneration⟩ := Option.map_eq_some_iff.mp htimed.symm
    exact hother assembly hfound hgeneration
  rw [EngineRun.poll_of_ne hother]
  refine h.proceed h.ordered.follows_self h.timers_unique h.timed
    (h.mem_erase_tasks h.timers_unique hnone) ?_ (told_of_table_eq rfl) (by simp) h.closed
  intro other another hfound hgone
  exact absurd (ShardTable.mem_generations_of_assembly? hfound) hgone

theorem Sound.poll_of_early (h : run.Sound) {identity : Identity} {timer : Timer}
    {assembly : Assembly} {now : Time}
    (hfound : run.engine.table.assembly? identity = some assembly)
    (hgeneration : assembly.generation = timer.generation) (hwake : timer.wake ≤ now)
    (hearly : now < assembly.deadline) : (run.poll identity timer now).Sound := by
  have hpoll := Engine.poll_of_early hfound hearly
  rw [hgeneration] at hpoll
  rw [EngineRun.poll, hpoll]
  have hunique := h.timers_unique.insert identity ⟨timer.generation, assembly.deadline⟩
  have hlater : (run.engine.timers.insert identity
      ⟨timer.generation, assembly.deadline⟩).get? identity ≠ some timer := by
    rw [Keyed.get?_insert_self]
    intro heq
    have hdeadline : assembly.deadline = timer.wake := congrArg Timer.wake (Option.some.inj heq)
    exact absurd (hdeadline ▸ hearly) (Nat.not_lt.mpr hwake)
  refine h.proceed h.ordered.follows_self hunique ?_ (h.mem_erase_tasks hunique hlater) ?_
    (told_of_table_eq rfl) (by simp) fun hclosed => ?_
  · intro other
    by_cases hother : other = identity
    · simp [hother, hfound, hgeneration]
    · exact (congrArg _ (Keyed.get?_insert_of_ne _ _ hother)).trans (h.timed other)
  · intro other another hother hgone
    exact absurd (ShardTable.mem_generations_of_assembly? hother) hgone
  · rw [h.isShutDown_eq_false hfound] at hclosed
    cases hclosed

theorem Sound.poll_of_late (h : run.Sound) {identity : Identity} {timer : Timer}
    {assembly : Assembly} {now : Time}
    (hfound : run.engine.table.assembly? identity = some assembly)
    (hgeneration : assembly.generation = timer.generation) (hlate : assembly.deadline ≤ now) :
    (run.poll identity timer now).Sound := by
  have hpoll := Engine.poll_of_late hfound hlate
  rw [hgeneration] at hpoll
  rw [EngineRun.poll, hpoll]
  have hunique := h.timers_unique.erase identity
  have hway : Departure.ofTimer identity timer identity assembly = some .evicted := by
    simp [Departure.ofTimer, hgeneration]
  refine h.proceed (h.ordered.follows_erase identity (Nat.le_refl _)) hunique ?_
    (h.mem_erase_tasks hunique (by simp)) ?_ ?_ (by simp [notice, ShardAck.reject])
    fun hclosed => ?_
  · intro other
    by_cases hother : other = identity
    · simp [hother]
    · exact (congrArg _ (Keyed.get?_erase_of_ne _ hother)).trans ((h.timed other).trans
        (congrArg _ (Keyed.get?_erase_of_ne run.engine.table.assemblies hother).symm))
  · intro other another hanother hgone
    by_cases hother : other = identity
    · subst hother
      obtain rfl := Option.some.inj (hanother.symm.trans hfound)
      exact ⟨.evicted, hway⟩
    · have hkept : ShardTable.assembly?
          { run.engine.table with assemblies := run.engine.table.assemblies.erase identity }
          other = some another := (Keyed.get?_erase_of_ne _ hother).trans hanother
      exact absurd (ShardTable.mem_generations_of_assembly? hkept) hgone
  · have hleaving : (run.leaving
        { run.engine with
          table :=
            { run.engine.table with assemblies := run.engine.table.assemblies.erase identity }
          timers := run.engine.timers.erase identity }
        (Departure.ofTimer identity timer)).Perm
        [(assembly.generation, Departure.ofTimer identity timer identity assembly)] :=
      leaving_perm_of_erase h hfound rfl
    rw [hway] at hleaving
    refine List.Perm.trans (List.Perm.of_eq ?_) ((hleaving.filter _).map _).symm
    simp [notice, hfound, Departure.isTold]
  · rw [h.isShutDown_eq_false hfound] at hclosed
    cases hclosed

theorem Sound.poll (h : run.Sound) {identity : Identity} {timer : Timer} {now : Time}
    (hwake : timer.wake ≤ now) : (run.poll identity timer now).Sound := by
  by_cases hown : ∃ assembly, run.engine.table.assembly? identity = some assembly ∧
      assembly.generation = timer.generation
  · obtain ⟨assembly, hfound, hgeneration⟩ := hown
    rcases Nat.lt_or_ge now assembly.deadline with hearly | hlate
    · exact h.poll_of_early hfound hgeneration hwake hearly
    · exact h.poll_of_late hfound hgeneration hlate
  · exact h.poll_of_ne (fun assembly hfound hgeneration => hown ⟨assembly, hfound, hgeneration⟩) now

theorem Sound.send (h : run.Sound) {notice : Notice} (hunsent : notice ∈ run.unsent) :
    (run.send notice).Sound := by
  have hperm : (run.unsent.erase notice ++ (run.sent ++ [notice])).Perm
      (run.unsent ++ run.sent) := by
    have hfront := (List.perm_cons_erase hunsent).append_right run.sent
    refine List.Perm.trans ?_ hfront.symm
    rw [← List.append_assoc]
    exact List.perm_append_singleton _ _
  exact { h with
    told := (hperm.map _).trans h.told
    failures := fun other hmem => h.failures other (hperm.mem_iff.mp hmem) }

theorem told_shutdown (h : run.Sound) :
    ((run.engine.shutdown.2.map fun answer => run.notice answer.1 answer.2).map
      Notice.about).Perm
        (Departure.told (run.leaving run.engine.shutdown.1 fun _ _ => some .drained)) := by
  have hnotices : (run.engine.shutdown.2.map fun answer => run.notice answer.1 answer.2).map
      Notice.about =
        run.engine.table.assemblies.entries.map fun entry => some entry.2.generation := by
    have hanswers : run.engine.shutdown.2 = run.engine.table.assemblies.entries.map
        fun entry => (entry.1, .reject entry.2.shard entry.2.lastPiece) := rfl
    rw [hanswers, List.map_map, List.map_map]
    refine List.map_congr_left fun entry hmem => ?_
    have hfound : run.engine.table.assembly? entry.1 = some entry.2 :=
      h.ordered.unique.get?_eq_some_iff.mpr hmem
    simp [notice, hfound]
  have hleaving : (run.leaving run.engine.shutdown.1 fun _ _ => some .drained) =
      run.engine.table.assemblies.entries.map fun entry =>
        (entry.2.generation, some .drained) := by
    have hnone : run.engine.shutdown.1.table.generations = [] := rfl
    rw [leaving, hnone]
    simp
  rw [hnotices, hleaving, Departure.told, List.filter_eq_self.mpr, List.map_map]
  · exact List.Perm.refl _
  · intro departure hmem
    obtain ⟨entry, _, rfl⟩ := List.mem_map.mp hmem
    rfl

theorem Sound.shutdown (h : run.Sound) : run.shutdown.Sound := by
  refine h.proceed (ShardTable.follows_drain run.engine.table) Keyed.unique_empty (fun _ => rfl)
    ?_ (fun _ _ _ _ => ⟨.drained, rfl⟩) (told_shutdown h) ?_ fun _ => ⟨rfl, rfl⟩
  · intro entry hmem
    cases hmem
  · intro notice hmem
    obtain ⟨answer, hanswer, rfl⟩ := List.mem_map.mp hmem
    obtain ⟨entry, _, rfl⟩ := List.mem_map.mp hanswer
    rfl

theorem Reachable.sound (h : Reachable timeout run) : run.Sound := by
  induction h with
  | start => exact sound_start timeout
  | step _ hstep ih =>
    cases hstep with
    | submit frame now => exact ih.submit frame now
    | poll identity timer now _ hwake => exact ih.poll hwake
    | send notice hunsent => exact ih.send hunsent
    | shutdown => exact ih.shutdown

/-! ### What it says -/

theorem Sound.nodup (h : run.Sound) :
    (run.engine.table.generations ++ run.departed.map Prod.fst).Nodup := by
  refine h.balance.nodup_iff.mp (h.opened_lt.imp ?_)
  intro left right hlt
  omega

theorem Sound.mem_opened (h : run.Sound) {departure : Nat × Option Departure}
    (hmem : departure ∈ run.departed) : departure.1 ∈ run.opened :=
  h.balance.mem_iff.mpr (List.mem_append_right _ (List.mem_map_of_mem hmem))

theorem Sound.count_about (h : run.Sound) (generation : Nat) :
    ((run.unsent ++ run.sent).map Notice.about).count (some generation) =
      if (generation, some Departure.evicted) ∈ run.departed ∨
        (generation, some Departure.drained) ∈ run.departed then 1 else 0 := by
  rw [h.told.count_eq]
  have hnodup : (Departure.told run.departed).Nodup := by
    have hfst := (List.nodup_append.mp h.nodup).2.1.sublist
      ((List.filter_sublist (p := fun departure => Departure.isTold departure.2)).map Prod.fst)
    have hsome := hfst.map (f := some) fun _ _ heq => Option.some.inj heq
    rwa [List.map_map] at hsome
  split_ifs with htold
  · exact List.count_eq_one_of_mem hnodup (Departure.mem_told_iff.mpr ⟨generation, rfl, htold⟩)
  · refine List.count_eq_zero.mpr fun hmem => htold ?_
    obtain ⟨_, heq, hdeparted⟩ := Departure.mem_told_iff.mp hmem
    rwa [Option.some.inj heq]

def lonePiece : Frame :=
  Frame.make ⟨[0xB0, 0, 0, 0, 0, 2], rfl⟩ (Header.make 1 true .alarm) [7, 0, 1, 0, 1]

end EngineRun

end SensorGateway
