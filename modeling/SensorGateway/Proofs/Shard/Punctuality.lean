import SensorGateway.Proofs.Shard.Episodes
import SensorGateway.Proofs.Shard.LifeCycle

/-!
# Reassemblies are given up in time

A timer sleeps until the deadline that its reassembly had when it was started, and only on waking up
does it find that there has been progress meanwhile. `TimedRun` is an engine in operation with a
clock, where time does not pass beyond the moment at which a timer is to wake up. Such a run gives a
reassembly up when the timeout has passed since its last progress, and at no other moment, as if the
timer had been set anew on every progress (`Reachable.punctual`).

That no timer is late is a rule of the run. What has to be shown is the other half of `Prompt`: no
timer sleeps beyond the deadline of its reassembly. One that wakes up too early does no harm, since
it goes on sleeping until the deadline that holds now.
-/

namespace SensorGateway

/-! ### Timers and deadlines -/

namespace Engine

/-- No timer is overdue and none sleeps beyond the deadline of its reassembly; no deadline is
farther away than the timeout. -/
structure Prompt (engine : Engine) (clock : Time) : Prop where
  wake : ∀ identity timer assembly, engine.timers.get? identity = some timer →
    engine.table.assembly? identity = some assembly →
      clock ≤ timer.wake ∧ timer.wake ≤ assembly.deadline
  deadline : ∀ identity assembly, engine.table.assembly? identity = some assembly →
    assembly.deadline ≤ clock + engine.table.timeout

variable {engine : Engine} {clock : Time}

theorem prompt_of_empty (hempty : engine.table.assemblies = Keyed.empty) (clock : Time) :
    engine.Prompt clock := by
  have hnone : ∀ identity, engine.table.assembly? identity = none := by
    intro identity
    rw [ShardTable.assembly?, hempty]
    rfl
  constructor
  · intro identity timer assembly _ hfound
    rw [hnone identity] at hfound
    cases hfound
  · intro identity assembly hfound
    rw [hnone identity] at hfound
    cases hfound

theorem Timed.exists_timer (h : engine.Timed) {identity : Identity} {assembly : Assembly}
    (hfound : engine.table.assembly? identity = some assembly) :
    ∃ timer, engine.timers.get? identity = some timer ∧
      timer.generation = assembly.generation := by
  have htimed := h identity
  rw [hfound] at htimed
  exact Option.map_eq_some_iff.mp htimed

theorem Timed.exists_assembly (h : engine.Timed) {identity : Identity} {timer : Timer}
    (htimer : engine.timers.get? identity = some timer) :
    ∃ assembly, engine.table.assembly? identity = some assembly ∧
      assembly.generation = timer.generation := by
  have htimed := h identity
  rw [htimer] at htimed
  exact Option.map_eq_some_iff.mp htimed.symm

theorem get?_adjust_of_ne (timers : Keyed Identity Timer) {identity other : Identity}
    (hne : other ≠ identity) (action : TimerAction) :
    (adjust timers identity action).get? other = timers.get? other := by
  cases action with
  | start generation deadline => exact Keyed.get?_insert_of_ne _ _ hne
  | cancel => exact Keyed.get?_erase_of_ne _ hne
  | keep => rfl

/-- A reassembly that is there after a frame has been opened by it and got its timer, or it was
there before and has kept its timer, while its deadline has stayed where it was or has been set
anew. -/
theorem timer_submit {frame : Frame} {identity : Identity} {assembly : Assembly}
    (hfound : (engine.submit frame clock).1.table.assembly? identity = some assembly) :
    (∃ timer, (engine.submit frame clock).1.timers.get? identity = some timer ∧
        timer.wake = assembly.deadline ∧ assembly.deadline = clock + engine.table.timeout) ∨
      ∃ previous, engine.table.assembly? identity = some previous ∧
        (engine.submit frame clock).1.timers.get? identity = engine.timers.get? identity ∧
          (assembly.deadline = previous.deadline ∨
            assembly.deadline = clock + engine.table.timeout) := by
  cases hclosed : engine.isShutDown with
  | true =>
    rw [(submit_of_isShutDown hclosed frame clock).1] at hfound ⊢
    exact Or.inr ⟨assembly, hfound, rfl, Or.inl rfl⟩
  | false =>
    rw [(submit_of_not_isShutDown hclosed frame clock).1] at hfound ⊢
    dsimp only at hfound ⊢
    by_cases hne : identity ≠ frame.identity
    · rw [ShardTable.assembly?_process_of_ne engine.table frame clock hne] at hfound
      exact Or.inr ⟨assembly, hfound, get?_adjust_of_ne _ hne _, Or.inl rfl⟩
    obtain rfl : identity = frame.identity := by simpa using hne
    have hcases := engine.table.processed frame clock
    cases hprocess : engine.table.process frame clock with
    | mk after outcome =>
      rw [hprocess] at hcases hfound
      cases hcases with
      | whole => exact Or.inr ⟨assembly, hfound, rfl, Or.inl rfl⟩
      | refused => exact Or.inr ⟨assembly, hfound, rfl, Or.inl rfl⟩
      | opened piece =>
        rw [ShardTable.assembly?_insert_self, Option.some.injEq] at hfound
        have hdeadline : assembly.deadline = clock + engine.table.timeout := by
          rw [← hfound]
          exact Assembly.start_deadline ..
        exact Or.inl ⟨_, Keyed.get?_insert_self _ _ _, hdeadline.symm, hdeadline⟩
      | openedWhole => simp at hfound
      | joined piece previous _ _ hcollecting =>
        rw [ShardTable.assembly?_insert_self, Option.some.injEq] at hfound
        refine Or.inr ⟨previous, hcollecting.1, rfl, ?_⟩
        rw [← hfound, Assembly.accept_deadline]
        split_ifs
        · exact Or.inr rfl
        · exact Or.inl rfl
      | completed => simp at hfound

theorem Prompt.submit (h : engine.Prompt clock) (frame : Frame) :
    (engine.submit frame clock).1.Prompt clock := by
  constructor
  case wake =>
    intro identity timer assembly htimer hfound
    rcases timer_submit hfound with ⟨_, hstarted, hwake, hdeadline⟩ |
      ⟨previous, hprevious, hkept, hdeadline⟩
    · obtain rfl := Option.some.inj (htimer.symm.trans hstarted)
      rw [hwake, hdeadline]
      exact ⟨Nat.le_add_right _ _, Nat.le_refl _⟩
    · obtain ⟨hdue, hwake⟩ := h.wake identity timer previous (hkept ▸ htimer) hprevious
      refine ⟨hdue, ?_⟩
      rcases hdeadline with hsame | hmoved
      · exact hsame ▸ hwake
      · exact hmoved ▸ Nat.le_trans hwake (h.deadline identity previous hprevious)
  case deadline =>
    intro identity assembly hfound
    rw [timeout_submit]
    rcases timer_submit hfound with ⟨_, _, _, hdeadline⟩ | ⟨previous, hprevious, _, hdeadline⟩
    · exact Nat.le_of_eq hdeadline
    · rcases hdeadline with hsame | hmoved
      · exact hsame ▸ h.deadline identity previous hprevious
      · exact Nat.le_of_eq hmoved

theorem Prompt.poll (h : engine.Prompt clock) (identity : Identity) (generation : Nat) :
    (engine.poll identity generation clock).1.Prompt clock := by
  by_cases hown : ∃ assembly, engine.table.assembly? identity = some assembly ∧
      assembly.generation = generation
  · obtain ⟨own, hfound, rfl⟩ := hown
    rcases Nat.lt_or_ge clock own.deadline with hearly | hlate
    · rw [poll_of_early hfound hearly]
      refine ⟨?_, h.deadline⟩
      intro other timer assembly htimer hother
      by_cases hne : other ≠ identity
      · rw [Keyed.get?_insert_of_ne _ _ hne] at htimer
        exact h.wake other timer assembly htimer hother
      · obtain rfl : other = identity := by simpa using hne
        obtain rfl := Option.some.inj (hfound.symm.trans hother)
        rw [Keyed.get?_insert_self, Option.some.injEq] at htimer
        rw [← htimer]
        exact ⟨Nat.le_of_lt hearly, Nat.le_refl _⟩
    · rw [poll_of_late hfound hlate]
      -- what is left was there before, with the same timer
      constructor
      · intro other timer assembly htimer hother
        obtain ⟨hne, hbefore⟩ := ShardTable.of_assembly?_erase hother
        rw [Keyed.get?_erase_of_ne _ hne] at htimer
        exact h.wake other timer assembly htimer hbefore
      · intro other assembly hother
        exact h.deadline other assembly (ShardTable.of_assembly?_erase hother).2
  · rw [poll_of_ne fun assembly hfound hsame => hown ⟨assembly, hfound, hsame⟩]
    exact h

theorem Prompt.pass (h : engine.Prompt clock) {later : Time} (hlater : clock ≤ later)
    (hdue : ∀ identity timer, engine.timers.get? identity = some timer → later ≤ timer.wake) :
    engine.Prompt later := by
  constructor
  case wake =>
    intro identity timer assembly htimer hfound
    exact ⟨hdue identity timer htimer, (h.wake identity timer assembly htimer hfound).2⟩
  case deadline =>
    intro identity assembly hfound
    exact Nat.le_trans (h.deadline identity assembly hfound) (Nat.add_le_add_right hlater _)

end Engine

/-! ### Runs with a clock -/

/-- A reassembly has been given up: when, and what the sensor is to be told. -/
structure Eviction where
  moment : Time
  notice : Notice
deriving DecidableEq

/-- How a reassembly ends that makes no progress any more. -/
def Episode.eviction (episode : Episode) (timeout : Time) (generation : Nat) : Eviction :=
  ⟨episode.progressed + timeout,
    ⟨episode.identity, some generation, .reject episode.shard episode.answered⟩⟩

/-- An engine in operation while a clock is running. -/
structure TimedRun where
  run : EngineRun
  clock : Time
  /-- What has been seen of each reassembly, by generation. -/
  episodes : Nat → Episode
  evictions : List Eviction

namespace TimedRun

def start (timeout clock : Time) : TimedRun :=
  ⟨.start timeout, clock, fun _ => default, []⟩

def submit (timed : TimedRun) (frame : Frame) : TimedRun :=
  { timed with
    run := timed.run.submit frame timed.clock
    episodes :=
      if timed.run.engine.isShutDown then timed.episodes
      else timed.run.engine.table.observe timed.episodes frame timed.clock }

def poll (timed : TimedRun) (identity : Identity) (timer : Timer) : TimedRun :=
  let answer := (timed.run.engine.poll identity timer.generation timed.clock).2
  { timed with
    run := timed.run.poll identity timer timed.clock
    evictions := timed.evictions ++
      answer.toList.map fun ack => ⟨timed.clock, timed.run.notice identity ack⟩ }

def send (timed : TimedRun) (notice : Notice) : TimedRun :=
  { timed with run := timed.run.send notice }

def shutdown (timed : TimedRun) : TimedRun :=
  { timed with run := timed.run.shutdown }

def pass (timed : TimedRun) (later : Time) : TimedRun :=
  { timed with clock := later }

/-- Whatever is done takes no time, and time passes until a timer is to wake up at most. -/
inductive Step (timed : TimedRun) : TimedRun → Prop where
  | submit (frame : Frame) : Step timed (timed.submit frame)
  | poll (identity : Identity) (timer : Timer) (htask : (identity, timer) ∈ timed.run.tasks)
      (hwake : timer.wake ≤ timed.clock) : Step timed (timed.poll identity timer)
  | send (notice : Notice) (hunsent : notice ∈ timed.run.unsent) : Step timed (timed.send notice)
  | shutdown : Step timed timed.shutdown
  | pass (later : Time) (hlater : timed.clock ≤ later)
      (hdue : ∀ identity timer, timed.run.engine.timers.get? identity = some timer →
        later ≤ timer.wake) : Step timed (timed.pass later)

inductive Reachable (timeout : Time) : TimedRun → Prop where
  | start (clock : Time) : Reachable timeout (start timeout clock)
  | step {timed next : TimedRun} (h : Reachable timeout timed) (hstep : Step timed next) :
      Reachable timeout next

/-- It is enough to look at the entries of the timers. -/
theorem Step.pass_of_entries {timed : TimedRun} {later : Time} (hlater : timed.clock ≤ later)
    (hdue : ∀ entry ∈ timed.run.engine.timers.entries, later ≤ entry.2.wake) :
    Step timed (timed.pass later) :=
  .pass later hlater fun _ _ htimer => hdue _ (Keyed.mem_entries_of_get? htimer)

/-- What holds at every moment of a run with a clock. -/
structure Punctual (timeout : Time) (timed : TimedRun) : Prop where
  /-- Whatever is still there has made progress within the timeout. -/
  active_le : ∀ identity assembly, timed.run.engine.table.assembly? identity = some assembly →
    timed.clock ≤ (timed.episodes assembly.generation).progressed + timeout
  /-- A reassembly is given up when the timeout has passed since its last progress, and at no other
  moment, unless it has left in another way. -/
  evicted_iff : ∀ generation ∈ timed.run.opened, ∀ moment < timed.clock,
    (∃ eviction ∈ timed.evictions, eviction.moment = moment ∧
        eviction.notice.about = some generation) ↔
      moment = (timed.episodes generation).progressed + timeout ∧
        ∀ way, (generation, some way) ∈ timed.run.departed → way = .evicted
  /-- The sensor is told once, about the piece that was answered positively last. -/
  told_once : ∀ eviction ∈ timed.evictions, ∃ generation,
    eviction = (timed.episodes generation).eviction timeout generation ∧
      eviction.moment ≤ timed.clock ∧
        (timed.run.unsent ++ timed.run.sent).filter (·.about = some generation) =
          [eviction.notice]
  /-- As soon as the timeout has passed a task is due that has not ended. -/
  due : ∀ identity assembly, timed.run.engine.table.assembly? identity = some assembly →
    timed.clock = (timed.episodes assembly.generation).progressed + timeout →
      (identity, ⟨assembly.generation, timed.clock⟩) ∈ timed.run.tasks
  /-- A task that wakes up gives its reassembly up if the timeout has passed, and otherwise goes on
  sleeping until it will have passed. -/
  wakeup : ∀ identity assembly, timed.run.engine.table.assembly? identity = some assembly →
    let episode := timed.episodes assembly.generation
    let (engine, answer) := timed.run.engine.poll identity assembly.generation timed.clock
    if timed.clock = episode.progressed + timeout then
      engine.table.assembly? identity = none ∧
        answer = some (.reject episode.shard episode.answered)
    else
      engine.table = timed.run.engine.table ∧ answer = none ∧
        engine.timers.get? identity =
          some ⟨assembly.generation, episode.progressed + timeout⟩
  /-- Opening a reassembly, appending a piece to it and keeping an early one for the first time are
  progress. -/
  advanced : ∀ frame piece, timed.run.engine.isShutDown = false → frame.fragmented = true →
    ShardPiece.parse frame.payload = .ok piece →
      let table := timed.run.engine.table
      (table.IsOpening frame.identity piece →
          ((timed.submit frame).episodes (table.generation + 1)).progressed = timed.clock) ∧
        ∀ assembly, table.IsCollecting frame.identity piece assembly →
          assembly.isPastEnd piece.piece = false → ¬ assembly.Has piece.piece →
            ((timed.submit frame).episodes assembly.generation).progressed = timed.clock
  /-- Whole frames, refused pieces and pieces that have come before are no progress. -/
  unmoved : ∀ frame,
    (frame.fragmented = false ∨
      (∀ piece, ShardPiece.parse frame.payload = .ok piece →
        ¬ timed.run.engine.table.Admits frame.identity piece) ∨
      ∃ piece assembly, ShardPiece.parse frame.payload = .ok piece ∧
        timed.run.engine.table.IsCollecting frame.identity piece assembly ∧
          assembly.Has piece.piece) →
      ∀ generation, ((timed.submit frame).episodes generation).progressed =
        (timed.episodes generation).progressed

variable {timeout : Time} {timed : TimedRun}

/-! ### The invariant -/

structure Timely (timeout : Time) (timed : TimedRun) : Prop where
  timeout_eq : timed.run.engine.table.timeout = timeout
  prompt : timed.run.engine.Prompt timed.clock
  observed : timed.run.engine.table.Observed timed.episodes
  evictions_iff : ∀ eviction, eviction ∈ timed.evictions ↔
    ∃ generation, (generation, some Departure.evicted) ∈ timed.run.departed ∧
      eviction = (timed.episodes generation).eviction timeout generation
  notices : ∀ eviction ∈ timed.evictions,
    eviction.moment ≤ timed.clock ∧ eviction.notice ∈ timed.run.unsent ++ timed.run.sent

theorem timely_start (timeout clock : Time) : (start timeout clock).Timely timeout where
  timeout_eq := rfl
  prompt := Engine.prompt_of_empty rfl clock
  observed := fun _ _ hfound => nomatch hfound
  evictions_iff := by simp [start, EngineRun.start]
  notices := by simp [start]

theorem Reachable.toRun (h : Reachable timeout timed) : EngineRun.Reachable timeout timed.run := by
  induction h with
  | start => exact .start
  | step _ hstep ih =>
    cases hstep with
    | submit frame => exact .step ih (.submit frame _)
    | poll identity timer htask hwake => exact .step ih (.poll identity timer _ htask hwake)
    | send notice hunsent => exact .step ih (.send notice hunsent)
    | shutdown => exact .step ih .shutdown
    | pass => exact ih

/-- A step in which nothing is given up keeps the record of what was given up, as long as it leaves
alone what has been seen of the reassemblies in it. -/
theorem Timely.evictions_iff_of_none (h : timed.Timely timeout) {next : TimedRun}
    (hnone : next.evictions = timed.evictions)
    (hdeparted : ∀ generation, (generation, some Departure.evicted) ∈ next.run.departed ↔
      (generation, some Departure.evicted) ∈ timed.run.departed)
    (hepisodes : ∀ generation, (generation, some Departure.evicted) ∈ timed.run.departed →
      next.episodes generation = timed.episodes generation) (eviction : Eviction) :
    eviction ∈ next.evictions ↔
      ∃ generation, (generation, some Departure.evicted) ∈ next.run.departed ∧
        eviction = (next.episodes generation).eviction timeout generation := by
  rw [hnone, h.evictions_iff]
  apply exists_congr
  intro generation
  rw [hdeparted]
  apply and_congr_right
  intro hmem
  rw [hepisodes generation hmem]

end TimedRun

namespace EngineRun

variable {run : EngineRun}

theorem mem_append_of_mem {unsent sent : List Notice} {notice : Notice}
    (hmem : notice ∈ unsent ++ sent) (more : List Notice) : notice ∈ unsent ++ more ++ sent := by
  rcases List.mem_append.mp hmem with hunsent | hsent
  · exact List.mem_append_left _ (List.mem_append_left _ hunsent)
  · exact List.mem_append_right _ hsent

theorem poll_eq_proceed (run : EngineRun) (identity : Identity) (timer : Timer) (now : Time) :
    run.poll identity timer now =
      run.proceed (run.engine.poll identity timer.generation now).1
        (run.tasks.erase (identity, timer))
        ((run.engine.poll identity timer.generation now).2.toList.map fun ack =>
          run.notice identity ack) (Departure.ofTimer identity timer) :=
  rfl

theorem mem_departed_proceed (h : run.Sound) {engine : Engine}
    {tasks : List (Identity × Timer)} {notices : List Notice}
    {way : Identity → Assembly → Option Departure}
    (hway : ∀ identity assembly, way identity assembly ≠ some .evicted) (generation : Nat) :
    (generation, some Departure.evicted) ∈ (run.proceed engine tasks notices way).departed ↔
      (generation, some Departure.evicted) ∈ run.departed := by
  unfold proceed
  rw [List.mem_append]
  refine or_iff_left fun hleaving => ?_
  obtain ⟨identity, assembly, _, _, hdeparture⟩ := (mem_leaving h.ordered).mp hleaving
  exact hway identity assembly (congrArg Prod.snd hdeparture).symm

/-- A wake-up that comes late enough takes away the reassembly that it is for. -/
theorem Sound.mem_departed_poll (h : run.Sound) {identity : Identity} {timer : Timer}
    {assembly : Assembly} {now : Time}
    (hfound : run.engine.table.assembly? identity = some assembly)
    (hgeneration : assembly.generation = timer.generation) (hlate : assembly.deadline ≤ now)
    (generation : Nat) :
    (generation, some Departure.evicted) ∈ (run.poll identity timer now).departed ↔
      (generation, some Departure.evicted) ∈ run.departed ∨ generation = assembly.generation := by
  have hpoll := Engine.poll_of_late hfound hlate
  rw [hgeneration] at hpoll
  have herase : (run.engine.poll identity timer.generation now).1.table.assemblies =
      run.engine.table.assemblies.erase identity := by
    rw [hpoll]
  have hleaving : (run.leaving (run.engine.poll identity timer.generation now).1
      (Departure.ofTimer identity timer)).Perm _ := leaving_perm_of_erase h hfound herase
  have hway : Departure.ofTimer identity timer identity assembly = some .evicted :=
    if_pos ⟨rfl, hgeneration⟩
  rw [hway] at hleaving
  rw [poll_eq_proceed, EngineRun.proceed, List.mem_append, hleaving.mem_iff]
  simp

theorem Sound.ne_of_departed (h : run.Sound) {departure : Nat × Option Departure}
    (hmem : departure ∈ run.departed) {identity : Identity} {assembly : Assembly}
    (hfound : run.engine.table.assembly? identity = some assembly) :
    departure.1 ≠ assembly.generation := by
  intro hsame
  have hthere := ShardTable.mem_generations_of_assembly? hfound
  exact (List.nodup_append.mp h.nodup).2.2 _ hthere _ (List.mem_map_of_mem hmem) hsame.symm

/-- What has departed is not seen again. -/
theorem Sound.observe_of_departed (h : run.Sound) {departure : Nat × Option Departure}
    (hmem : departure ∈ run.departed) (episodes : Nat → Episode) (frame : Frame) (now : Time) :
    run.engine.table.observe episodes frame now departure.1 = episodes departure.1 := by
  apply ShardTable.observe_apply_of_ne
  · intro assembly hfound
    exact h.ne_of_departed hmem hfound
  · have hle := h.opened_le _ (h.mem_opened hmem)
    omega

end EngineRun

namespace TimedRun

variable {timeout : Time} {timed : TimedRun}

theorem Timely.submit (h : timed.Timely timeout) (hsound : timed.run.Sound) (frame : Frame) :
    (timed.submit frame).Timely timeout := by
  constructor
  case timeout_eq =>
    exact (Engine.timeout_submit timed.run.engine frame timed.clock).trans h.timeout_eq
  case prompt => exact h.prompt.submit frame
  case observed =>
    change (timed.run.engine.submit frame timed.clock).1.table.Observed
      (timed.submit frame).episodes
    unfold TimedRun.submit
    dsimp only
    cases hclosed : timed.run.engine.isShutDown with
    | true =>
      rw [(Engine.submit_of_isShutDown hclosed frame timed.clock).1]
      exact h.observed
    | false =>
      rw [(Engine.submit_of_not_isShutDown hclosed frame timed.clock).1]
      exact h.observed.process hsound.ordered frame timed.clock
  case evictions_iff =>
    refine h.evictions_iff_of_none rfl ?_ ?_
    · apply EngineRun.mem_departed_proceed hsound
      intro identity assembly hevicted
      cases (congrArg Departure.isTold hevicted).symm.trans
        (EngineRun.isTold_ofFrame frame _ identity assembly)
    · intro generation hmem
      unfold TimedRun.submit
      dsimp only
      split_ifs
      · rfl
      · exact hsound.observe_of_departed hmem _ _ _
  case notices =>
    intro eviction hmem
    obtain ⟨hmoment, hnotice⟩ := h.notices eviction hmem
    exact ⟨hmoment, EngineRun.mem_append_of_mem hnotice _⟩

theorem Timely.poll_of_none (h : timed.Timely timeout) {identity : Identity} {timer : Timer}
    (hnone : (timed.run.engine.poll identity timer.generation timed.clock).2 = none)
    (htable : (timed.run.engine.poll identity timer.generation timed.clock).1.table =
      timed.run.engine.table) : (timed.poll identity timer).Timely timeout := by
  have hkept : (timed.poll identity timer).evictions = timed.evictions := by
    unfold TimedRun.poll
    dsimp only
    rw [hnone]
    exact List.append_nil _
  constructor
  case timeout_eq => exact (congrArg ShardTable.timeout htable).trans h.timeout_eq
  case prompt => exact h.prompt.poll identity timer.generation
  case observed =>
    change (timed.run.engine.poll identity timer.generation timed.clock).1.table.Observed _
    rw [htable]
    exact h.observed
  case evictions_iff =>
    refine h.evictions_iff_of_none hkept ?_ fun _ _ => rfl
    intro generation
    unfold TimedRun.poll
    dsimp only
    rw [EngineRun.poll_eq_proceed, EngineRun.proceed]
    dsimp only
    rw [EngineRun.leaving_of_table_eq htable, List.append_nil]
  case notices =>
    intro eviction hmem
    rw [hkept] at hmem
    obtain ⟨hmoment, hnotice⟩ := h.notices eviction hmem
    exact ⟨hmoment, EngineRun.mem_append_of_mem hnotice _⟩

theorem Timely.clock_le_wake (h : timed.Timely timeout) (hsound : timed.run.Sound)
    {identity : Identity} {timer : Timer}
    (htimer : timed.run.engine.timers.get? identity = some timer) :
    timed.clock ≤ timer.wake := by
  obtain ⟨assembly, hfound, _⟩ := hsound.timed.exists_assembly htimer
  exact (h.prompt.wake identity timer assembly htimer hfound).1

theorem Timely.clock_le (h : timed.Timely timeout) (hsound : timed.run.Sound)
    {identity : Identity} {assembly : Assembly}
    (hfound : timed.run.engine.table.assembly? identity = some assembly) :
    timed.clock ≤ assembly.deadline := by
  obtain ⟨timer, htimer, _⟩ := hsound.timed.exists_timer hfound
  obtain ⟨hdue, hwake⟩ := h.prompt.wake identity timer assembly htimer hfound
  exact Nat.le_trans hdue hwake

/-- A reassembly whose deadline has come has come to it just now, because no timer is overdue. -/
theorem Timely.eviction_eq (h : timed.Timely timeout) (hsound : timed.run.Sound)
    {identity : Identity} {assembly : Assembly}
    (hfound : timed.run.engine.table.assembly? identity = some assembly)
    (hlate : assembly.deadline ≤ timed.clock) :
    (timed.episodes assembly.generation).eviction timeout assembly.generation =
      ⟨timed.clock, timed.run.notice identity (.reject assembly.shard assembly.lastPiece)⟩ := by
  have hclock := Nat.le_antisymm (h.clock_le hsound hfound) hlate
  have hdescribes := h.observed identity assembly hfound
  unfold Episode.eviction EngineRun.notice
  rw [hclock, hdescribes.deadline_eq, hdescribes.shard_eq, hdescribes.lastPiece_eq,
    hdescribes.identity_eq, h.timeout_eq, ← hdescribes.identity_eq, hfound]
  rfl

theorem Timely.poll_of_late (h : timed.Timely timeout) (hsound : timed.run.Sound)
    {identity : Identity} {timer : Timer} {assembly : Assembly}
    (hfound : timed.run.engine.table.assembly? identity = some assembly)
    (hgeneration : assembly.generation = timer.generation)
    (hlate : assembly.deadline ≤ timed.clock) : (timed.poll identity timer).Timely timeout := by
  have heviction := h.eviction_eq hsound hfound hlate
  have hpoll := Engine.poll_of_late hfound hlate
  rw [hgeneration] at hpoll
  have htable : (timed.run.engine.poll identity timer.generation timed.clock).1.table =
      { timed.run.engine.table with
        assemblies := timed.run.engine.table.assemblies.erase identity } := by
    rw [hpoll]
  have hevictions : (timed.poll identity timer).evictions = timed.evictions ++
      [(timed.episodes assembly.generation).eviction timeout assembly.generation] := by
    unfold TimedRun.poll
    rw [heviction, hpoll]
    rfl
  constructor
  case timeout_eq => exact (congrArg ShardTable.timeout htable).trans h.timeout_eq
  case prompt => exact h.prompt.poll identity timer.generation
  case observed =>
    change (timed.run.engine.poll identity timer.generation timed.clock).1.table.Observed _
    rw [htable]
    exact h.observed.erase identity
  case evictions_iff =>
    have hdeparted := hsound.mem_departed_poll hfound hgeneration hlate
    intro eviction
    rw [hevictions, List.mem_append, List.mem_singleton, h.evictions_iff]
    constructor
    · rintro (⟨generation, hmem, rfl⟩ | rfl)
      · exact ⟨generation, (hdeparted generation).mpr (Or.inl hmem), rfl⟩
      · exact ⟨assembly.generation, (hdeparted _).mpr (Or.inr rfl), rfl⟩
    · rintro ⟨generation, hmem, rfl⟩
      rcases (hdeparted generation).mp hmem with hmem | rfl
      · exact Or.inl ⟨generation, hmem, rfl⟩
      · exact Or.inr rfl
  case notices =>
    have hunsent : (timed.poll identity timer).run.unsent = timed.run.unsent ++
        [timed.run.notice identity (.reject assembly.shard assembly.lastPiece)] := by
      change timed.run.unsent ++ List.map _
        (timed.run.engine.poll identity timer.generation timed.clock).2.toList = _
      rw [hpoll]
      rfl
    intro eviction hmem
    rw [hunsent]
    rw [hevictions, heviction] at hmem
    rcases List.mem_append.mp hmem with hmem | hmem
    · obtain ⟨hmoment, hnotice⟩ := h.notices eviction hmem
      exact ⟨hmoment, EngineRun.mem_append_of_mem hnotice _⟩
    · rw [List.mem_singleton.mp hmem]
      refine ⟨Nat.le_refl _, List.mem_append_left _ ?_⟩
      exact List.mem_append_right _ (List.mem_singleton.mpr rfl)

theorem Timely.poll (h : timed.Timely timeout) (hsound : timed.run.Sound) (identity : Identity)
    (timer : Timer) : (timed.poll identity timer).Timely timeout := by
  by_cases hown : ∃ assembly, timed.run.engine.table.assembly? identity = some assembly ∧
      assembly.generation = timer.generation
  · obtain ⟨assembly, hfound, hgeneration⟩ := hown
    rcases Nat.lt_or_ge timed.clock assembly.deadline with hearly | hlate
    · have hpoll := Engine.poll_of_early hfound hearly
      rw [hgeneration] at hpoll
      exact h.poll_of_none (congrArg Prod.snd hpoll) (congrArg (fun result => result.1.table) hpoll)
    · exact h.poll_of_late hsound hfound hgeneration hlate
  · have hpoll := Engine.poll_of_ne
      (fun assembly hfound hsame => hown ⟨assembly, hfound, hsame⟩) timed.clock
    exact h.poll_of_none (congrArg Prod.snd hpoll) (congrArg (fun result => result.1.table) hpoll)

theorem Timely.send (h : timed.Timely timeout) {notice : Notice} :
    (timed.send notice).Timely timeout := by
  refine { h with notices := fun eviction hmem => ?_ }
  obtain ⟨hmoment, hnotice⟩ := h.notices eviction hmem
  refine ⟨hmoment, ?_⟩
  by_cases hsame : eviction.notice = notice
  · exact List.mem_append_right _ (List.mem_append_right _ (List.mem_singleton.mpr hsame))
  · rcases List.mem_append.mp hnotice with hunsent | hsent
    · exact List.mem_append_left _ ((List.mem_erase_of_ne hsame).mpr hunsent)
    · exact List.mem_append_right _ (List.mem_append_left _ hsent)

theorem Timely.shutdown (h : timed.Timely timeout) (hsound : timed.run.Sound) :
    timed.shutdown.Timely timeout := by
  constructor
  case timeout_eq => exact h.timeout_eq
  case prompt => exact Engine.prompt_of_empty rfl _
  case observed => exact fun _ _ hfound => nomatch hfound
  case evictions_iff =>
    refine h.evictions_iff_of_none rfl ?_ fun _ _ => rfl
    exact EngineRun.mem_departed_proceed hsound fun _ _ heq => nomatch heq
  case notices =>
    intro eviction hmem
    obtain ⟨hmoment, hnotice⟩ := h.notices eviction hmem
    exact ⟨hmoment, EngineRun.mem_append_of_mem hnotice _⟩

theorem Timely.pass (h : timed.Timely timeout) {later : Time} (hlater : timed.clock ≤ later)
    (hdue : ∀ identity timer, timed.run.engine.timers.get? identity = some timer →
      later ≤ timer.wake) : (timed.pass later).Timely timeout := by
  refine { h with prompt := h.prompt.pass hlater hdue, notices := fun eviction hmem => ?_ }
  obtain ⟨hmoment, hnotice⟩ := h.notices eviction hmem
  exact ⟨Nat.le_trans hmoment hlater, hnotice⟩

theorem Reachable.timely (h : Reachable timeout timed) : timed.Timely timeout := by
  induction h with
  | start clock => exact timely_start timeout clock
  | step h hstep ih =>
    have hsound := h.toRun.sound
    cases hstep with
    | submit frame => exact ih.submit hsound frame
    | poll identity timer => exact ih.poll hsound identity timer
    | send => exact ih.send
    | shutdown => exact ih.shutdown hsound
    | pass later hlater hdue => exact ih.pass hlater hdue

/-! ### What it says -/

theorem filter_eq_singleton_of_count {notices : List Notice} {notice : Notice} {generation : Nat}
    (hone : (notices.map Notice.about).count (some generation) = 1) (hmem : notice ∈ notices)
    (habout : notice.about = some generation) :
    notices.filter (·.about = some generation) = [notice] := by
  have hlength : (notices.filter (·.about = some generation)).length = 1 := by
    rw [← hone, List.count, List.countP_map, List.countP_eq_length_filter]
    congr 1
    apply List.filter_congr
    intro other _
    rw [Bool.eq_iff_iff, decide_eq_true_iff, Function.comp_apply, beq_iff_eq]
  obtain ⟨only, honly⟩ := List.length_eq_one_iff.mp hlength
  have hkept : notice ∈ notices.filter (·.about = some generation) :=
    List.mem_filter.mpr ⟨hmem, by simpa using habout⟩
  rw [honly, List.mem_singleton] at hkept
  rw [honly, hkept]

theorem Timely.deadline_eq (h : timed.Timely timeout) {identity : Identity} {assembly : Assembly}
    (hfound : timed.run.engine.table.assembly? identity = some assembly) :
    assembly.deadline = (timed.episodes assembly.generation).progressed + timeout :=
  h.timeout_eq ▸ (h.observed identity assembly hfound).deadline_eq

/-- Once time has passed beyond the timeout, a reassembly is no longer there. -/
theorem Timely.evicted_of_lt (h : timed.Timely timeout) (hsound : timed.run.Sound)
    {generation : Nat} (hopened : generation ∈ timed.run.opened)
    (hlate : (timed.episodes generation).progressed + timeout < timed.clock)
    (hway : ∀ way, (generation, some way) ∈ timed.run.departed → way = .evicted) :
    (generation, some .evicted) ∈ timed.run.departed := by
  rcases List.mem_append.mp (hsound.balance.mem_iff.mp hopened) with hactive | hdeparted
  · obtain ⟨identity, assembly, hfound, rfl⟩ :=
      hsound.ordered.mem_generations_iff.mp hactive
    have hclock := h.clock_le hsound hfound
    rw [h.deadline_eq hfound] at hclock
    exact absurd hclock (Nat.not_le.mpr hlate)
  · obtain ⟨departure, hmem, rfl⟩ := List.mem_map.mp hdeparted
    obtain ⟨way, heq⟩ := hsound.explained departure hmem
    have hleft : (departure.1, some way) ∈ timed.run.departed := heq ▸ hmem
    rwa [hway way hleft] at hleft

/-- **Reassemblies are given up in time.** -/
theorem Reachable.punctual (h : Reachable timeout timed) : timed.Punctual timeout := by
  have hsound := h.toRun.sound
  have htimely := h.timely
  constructor
  case active_le =>
    intro identity assembly hfound
    rw [← htimely.deadline_eq hfound]
    exact htimely.clock_le hsound hfound
  case evicted_iff =>
    intro generation hopened moment hmoment
    constructor
    · rintro ⟨eviction, hmem, rfl, habout⟩
      obtain ⟨other, hdeparted, rfl⟩ := (htimely.evictions_iff eviction).mp hmem
      obtain rfl : other = generation := Option.some.inj habout
      refine ⟨rfl, fun way hway => ?_⟩
      have hsame := List.inj_on_of_nodup_map (List.nodup_append.mp hsound.nodup).2.1 hway hdeparted
        rfl
      exact Option.some.inj (congrArg Prod.snd hsame)
    · rintro ⟨rfl, hway⟩
      have hdeparted := htimely.evicted_of_lt hsound hopened hmoment hway
      exact ⟨_, (htimely.evictions_iff _).mpr ⟨generation, hdeparted, rfl⟩, rfl, rfl⟩
  case told_once =>
    intro eviction hmem
    obtain ⟨generation, hdeparted, heq⟩ := (htimely.evictions_iff eviction).mp hmem
    obtain ⟨hmoment, hnotice⟩ := htimely.notices eviction hmem
    refine ⟨generation, heq, hmoment, ?_⟩
    have hcount := hsound.count_about generation
    rw [if_pos (Or.inl hdeparted)] at hcount
    exact filter_eq_singleton_of_count hcount hnotice (heq ▸ rfl)
  case due =>
    intro identity assembly hfound hclock
    obtain ⟨timer, htimer, hgeneration⟩ := hsound.timed.exists_timer hfound
    obtain ⟨hdue, hwake⟩ := htimely.prompt.wake identity timer assembly htimer hfound
    rw [htimely.deadline_eq hfound, ← hclock] at hwake
    have hnow : timer = ⟨assembly.generation, timed.clock⟩ := by
      rw [← Nat.le_antisymm hwake hdue, ← hgeneration]
    exact hnow ▸ hsound.armed _ (Keyed.mem_entries_of_get? htimer)
  case wakeup =>
    intro identity assembly hfound
    have hdescribes := htimely.observed identity assembly hfound
    have hdeadline := htimely.deadline_eq hfound
    have hclock := htimely.clock_le hsound hfound
    dsimp only
    split_ifs with hnow
    · have hlate := Nat.le_of_eq (hdeadline.trans hnow.symm)
      rw [Engine.poll_of_late hfound hlate, hdescribes.shard_eq, hdescribes.lastPiece_eq]
      exact ⟨ShardTable.assembly?_erase_self .., rfl⟩
    · have hearly : timed.clock < assembly.deadline :=
        Nat.lt_of_le_of_ne hclock (hdeadline ▸ hnow)
      rw [Engine.poll_of_early hfound hearly, ← hdeadline]
      exact ⟨rfl, rfl, Keyed.get?_insert_self ..⟩
  case advanced =>
    intro frame piece hrunning hpiece hparse
    have hepisodes : (timed.submit frame).episodes =
        timed.run.engine.table.observe timed.episodes frame timed.clock := by
      unfold TimedRun.submit
      simp [hrunning]
    dsimp only
    rw [hepisodes]
    constructor
    · intro hopening
      rw [ShardTable.observe_of_isOpening hpiece hparse hopening, Function.update_self]
    · intro assembly hcollecting hend hnew
      rw [← assembly.advancesOn_eq_false_iff, Bool.not_eq_false] at hnew
      rw [ShardTable.observe_of_isCollecting hpiece hparse hcollecting hend, Function.update_self,
        if_pos hnew]
  case unmoved =>
    intro frame hframe generation
    unfold TimedRun.submit
    dsimp only
    split_ifs
    · rfl
    · rcases hframe with hwhole | hrefused | ⟨piece, assembly, hparse, hcollecting, hhas⟩
      · rw [ShardTable.observe_of_not_admits (by simp [hwhole])]
      · rw [ShardTable.observe_of_not_admits fun _ => hrefused]
      · exact ShardTable.progressed_observe_of_has hparse hcollecting hhas generation

/-- The piece after `EngineRun.lonePiece`. -/
def secondPiece : Frame :=
  Frame.make EngineRun.lonePiece.identity (Header.make 1 true .alarm) [7, 1, 1, 0, 2]

/-- There is progress at moment 15, so the timer that wakes up at moment 20 goes on sleeping. -/
def wokenRun : TimedRun :=
  let waiting := ((start 20 0).submit EngineRun.lonePiece).pass 15
  ((waiting.submit secondPiece).pass 20).poll secondPiece.identity ⟨1, 20⟩

/-- The first piece comes once more at moment 20, and at moment 35 the reassembly is given up. -/
def repeatedRun : TimedRun :=
  ((wokenRun.submit EngineRun.lonePiece).pass 35).poll secondPiece.identity ⟨1, 35⟩

theorem punctual_repeatedRun :
    repeatedRun.Punctual 20 ∧
      repeatedRun.evictions = [⟨35, secondPiece.identity, some 1, .reject 7 0⟩] := by
  have hopened : Reachable 20 ((start 20 0).submit EngineRun.lonePiece) :=
    .step (.start 0) (.submit _)
  have hwaiting : Reachable 20 (((start 20 0).submit EngineRun.lonePiece).pass 15) :=
    .step hopened (.pass_of_entries (by decide) (by decide +kernel))
  have hwoken : Reachable 20 wokenRun := by
    apply Reachable.step (.step (.step hwaiting (.submit secondPiece)) (.pass_of_entries _ _))
    · exact .poll _ _ (by decide +kernel) (by decide)
    · decide
    · decide +kernel
  have hrepeated : Reachable 20 repeatedRun := by
    apply Reachable.step (.step (.step hwoken (.submit EngineRun.lonePiece)) (.pass_of_entries _ _))
    · exact .poll _ _ (by decide +kernel) (by decide)
    · decide
    · decide +kernel
  exact ⟨Reachable.punctual hrepeated, by decide +kernel⟩

end TimedRun

end SensorGateway
