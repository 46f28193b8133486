import SensorGateway.Proofs.Shard.Punctuality

/-!
# Letting time pass

`Engine.advance` lets the timers wake up one after the other, the earliest first, and stops after a
number of rounds that is fixed beforehand. These are enough: a timer that sleeps until the deadline
of its reassembly wakes up for the last time, and any other wakes up once before that. So letting
time pass is part of a run with a clock (`Reachable.advance`).
-/

namespace SensorGateway

namespace Engine

variable {engine : Engine} {limit : Time}

/-! ### The timer that wakes up first -/

/-- The earlier one of two entries, if there are two that wake up until a moment. -/
def earlier (limit : Time) (found : Option (Identity × Timer)) (entry : Identity × Timer) :
    Option (Identity × Timer) :=
  if limit < entry.2.wake then found
  else
    match found with
    | some earliest => if entry.2.wake < earliest.2.wake then some entry else found
    | none => some entry

theorem nextTimer?_eq_foldl (engine : Engine) (limit : Time) :
    engine.nextTimer? limit = engine.timers.entries.foldl (earlier limit) none :=
  rfl

/-- What has been found is the first of these entries to wake up, if one of them does. -/
structure IsFirst (limit : Time) (entries : List (Identity × Timer))
    (found : Option (Identity × Timer)) : Prop where
  lt_of_none : found = none → ∀ entry ∈ entries, limit < entry.2.wake
  le_of_some : ∀ first, found = some first →
    first ∈ entries ∧ first.2.wake ≤ limit ∧ ∀ entry ∈ entries, first.2.wake ≤ entry.2.wake

theorem IsFirst.concat {entries : List (Identity × Timer)} {found : Option (Identity × Timer)}
    (h : IsFirst limit entries found) (entry : Identity × Timer) :
    IsFirst limit (entries ++ [entry]) (earlier limit found entry) := by
  unfold earlier
  split_ifs with hlate
  · constructor
    · intro hnone
      simpa [or_imp, forall_and, hlate] using h.lt_of_none hnone
    · intro first hfirst
      obtain ⟨hmem, hwake, hle⟩ := h.le_of_some first hfirst
      refine ⟨List.mem_append_left _ hmem, hwake, ?_⟩
      simpa [or_imp, forall_and, Nat.le_of_lt (Nat.lt_of_le_of_lt hwake hlate)] using hle
  · have hdue := Nat.le_of_not_lt hlate
    cases found with
    | none =>
      constructor
      · intro hnone
        cases hnone
      · rintro _ ⟨⟩
        refine ⟨by simp, hdue, fun other hmem => ?_⟩
        rcases List.mem_append.mp hmem with hmem | hmem
        · exact Nat.le_of_lt (Nat.lt_of_le_of_lt hdue (h.lt_of_none rfl other hmem))
        · obtain rfl := List.mem_singleton.mp hmem
          exact Nat.le_refl _
    | some earliest =>
      obtain ⟨hmem, hwake, hle⟩ := h.le_of_some earliest rfl
      dsimp only
      split_ifs with hless
      · constructor
        · intro hnone
          cases hnone
        · rintro _ ⟨⟩
          refine ⟨by simp, hdue, fun other hother => ?_⟩
          rcases List.mem_append.mp hother with hother | hother
          · exact Nat.le_of_lt (Nat.lt_of_lt_of_le hless (hle other hother))
          · obtain rfl := List.mem_singleton.mp hother
            exact Nat.le_refl _
      · constructor
        · intro hnone
          cases hnone
        · rintro _ ⟨⟩
          refine ⟨List.mem_append_left _ hmem, hwake, ?_⟩
          simpa [or_imp, forall_and, Nat.le_of_not_lt hless] using hle

theorem isFirst_nextTimer? (engine : Engine) (limit : Time) :
    IsFirst limit engine.timers.entries (engine.nextTimer? limit) := by
  have hfold : ∀ (rest seen : List (Identity × Timer)) (found : Option (Identity × Timer)),
      IsFirst limit seen found →
        IsFirst limit (seen ++ rest) (rest.foldl (earlier limit) found) := by
    intro rest
    induction rest with
    | nil =>
      intro seen found h
      rwa [List.append_nil]
    | cons entry rest ih =>
      intro seen found h
      have hnext := ih (seen ++ [entry]) _ (h.concat entry)
      rwa [List.append_assoc] at hnext
  rw [nextTimer?_eq_foldl]
  exact hfold engine.timers.entries [] none ⟨by simp, by simp⟩

/-! ### How often timers wake up -/

def isDue (limit : Time) (entry : Identity × Timer) : Bool :=
  entry.2.wake ≤ limit

/-- There has been progress since the timer went to sleep, so it will wake up once more. -/
def isStale (table : ShardTable) (entry : Identity × Timer) : Bool :=
  (table.assembly? entry.1).any fun assembly => entry.2.wake < assembly.deadline

/-- How often timers wake up until a moment at most, if no frame arrives. -/
def rounds (engine : Engine) (limit : Time) : Nat :=
  engine.timers.entries.countP (isDue limit) + engine.timers.entries.countP (isStale engine.table)

theorem rounds_le (engine : Engine) (limit : Time) :
    engine.rounds limit ≤ 2 * engine.timers.size := by
  have hdue := List.countP_le_length (p := isDue limit) (l := engine.timers.entries)
  have hstale := List.countP_le_length (p := isStale engine.table) (l := engine.timers.entries)
  unfold rounds Keyed.size
  omega

theorem lt_wake_of_rounds_eq_zero (hzero : engine.rounds limit = 0) :
    ∀ entry ∈ engine.timers.entries, limit < entry.2.wake := by
  intro entry hmem
  have hnone := List.countP_eq_zero.mp (Nat.eq_zero_of_add_eq_zero_right hzero) entry hmem
  simpa [isDue] using hnone

/-- Whenever a timer wakes up there is a round less to come. -/
theorem rounds_poll_lt (htimed : engine.Timed) (hunique : engine.timers.Unique)
    {identity : Identity} {timer : Timer} (htimer : engine.timers.get? identity = some timer)
    (hwake : timer.wake ≤ limit) :
    (engine.poll identity timer.generation timer.wake).1.rounds limit < engine.rounds limit := by
  obtain ⟨assembly, hfound, hgeneration⟩ := htimed.exists_assembly htimer
  have hentries := hunique.perm_cons_erase htimer
  have hdue : isDue limit (identity, timer) = true := decide_eq_true hwake
  unfold rounds
  rw [hentries.countP_eq, hentries.countP_eq, List.countP_cons_of_pos hdue]
  rcases Nat.lt_or_ge timer.wake assembly.deadline with hearly | hlate
  · have hstale : isStale engine.table (identity, timer) = true := by
      simp [isStale, hfound, hearly]
    have hlast :
        isStale engine.table (identity, ⟨timer.generation, assembly.deadline⟩) = false := by
      simp [isStale, hfound]
    have hpoll := poll_of_early hfound hearly
    rw [hgeneration] at hpoll
    rw [hpoll, List.countP_cons_of_pos hstale]
    unfold Keyed.insert
    dsimp only
    rw [List.countP_cons (p := isDue limit), List.countP_cons_of_neg (Bool.eq_false_iff.mp hlast)]
    split_ifs <;> omega
  · have hpoll := poll_of_late hfound hlate
    rw [hgeneration] at hpoll
    rw [hpoll]
    dsimp only
    have hothers : ∀ entry ∈ (engine.timers.erase identity).entries,
        isStale { engine.table with assemblies := engine.table.assemblies.erase identity } entry =
          true ↔ isStale engine.table entry = true := by
      intro entry hmem
      have hne : entry.1 ≠ identity := by simpa using (List.mem_filter.mp hmem).2
      have hkept : ShardTable.assembly?
          { engine.table with assemblies := engine.table.assemblies.erase identity } entry.1 =
            engine.table.assembly? entry.1 := Keyed.get?_erase_of_ne _ hne
      unfold isStale
      rw [hkept]
    rw [List.countP_congr hothers, List.countP_cons]
    omega

end Engine

/-! ### Time passes in a run -/

/-- What goes out when a reassembly has been given up. -/
def Eviction.answer (eviction : Eviction) : Time × Identity × ShardAck :=
  (eviction.moment, eviction.notice.identity, eviction.notice.ack)

namespace TimedRun

variable {timeout limit : Time} {timed : TimedRun}

/-- The answer to a wake-up at the moment that the clock shows. -/
theorem evictions_poll (timed : TimedRun) (identity : Identity) (timer : Timer) :
    ∃ evictions, (timed.poll identity timer).evictions = timed.evictions ++ evictions ∧
      evictions.map Eviction.answer =
        (timed.run.engine.poll identity timer.generation timed.clock).2.toList.map fun ack =>
          (timed.clock, identity, ack) := by
  refine ⟨_, rfl, ?_⟩
  rw [List.map_map]
  rfl

/-- Some run leads to what a number of wake-ups leads to, if no more can come until that moment. -/
theorem Reachable.wakeWithin (h : Reachable timeout timed) (hlimit : timed.clock ≤ limit)
    {count : Nat} (hcount : timed.run.engine.rounds limit ≤ count) :
    ∃ next, Reachable timeout next ∧ next.clock = limit ∧ next.episodes = timed.episodes ∧
      next.run.engine = (Engine.wakeWithin count timed.run.engine limit).1 ∧
      ∃ evictions, next.evictions = timed.evictions ++ evictions ∧
        evictions.map Eviction.answer = (Engine.wakeWithin count timed.run.engine limit).2 := by
  induction count generalizing timed with
  | zero =>
    have hnone := Engine.lt_wake_of_rounds_eq_zero (Nat.eq_zero_of_le_zero hcount)
    have hpassed : Reachable timeout (timed.pass limit) :=
      h.step (.pass_of_entries hlimit fun entry hmem => Nat.le_of_lt (hnone entry hmem))
    exact ⟨_, hpassed, rfl, rfl, rfl, [], (List.append_nil _).symm, rfl⟩
  | succ count ih =>
    have hfirst := Engine.isFirst_nextTimer? timed.run.engine limit
    unfold Engine.wakeWithin
    cases hnext : timed.run.engine.nextTimer? limit with
    | none =>
      have hpassed : Reachable timeout (timed.pass limit) :=
        h.step (.pass_of_entries hlimit fun entry hmem =>
          Nat.le_of_lt (hfirst.lt_of_none hnext entry hmem))
      exact ⟨_, hpassed, rfl, rfl, rfl, [], (List.append_nil _).symm, rfl⟩
    | some first =>
      obtain ⟨identity, timer⟩ := first
      obtain ⟨hmem, hwake, hle⟩ := hfirst.le_of_some _ hnext
      have hsound := h.toRun.sound
      have htimer := hsound.timers_unique.get?_eq_some_iff.mpr hmem
      have hpassed : Reachable timeout (timed.pass timer.wake) :=
        h.step (.pass_of_entries (h.timely.clock_le_wake hsound htimer) hle)
      have hwoken : Reachable timeout ((timed.pass timer.wake).poll identity timer) :=
        hpassed.step (.poll identity timer (hsound.armed _ hmem) (Nat.le_refl _))
      have hfewer := Engine.rounds_poll_lt hsound.timed hsound.timers_unique htimer hwake
      obtain ⟨next, hreachable, hclock, hepisodes, hengine, later, hevictions, hanswers⟩ :=
        ih hwoken hwake (Nat.le_of_lt_succ (Nat.lt_of_lt_of_le hfewer hcount))
      obtain ⟨now, hnow, hanswer⟩ := (timed.pass timer.wake).evictions_poll identity timer
      refine ⟨next, hreachable, hclock, hepisodes, hengine, now ++ later, ?_, ?_⟩
      · rw [hevictions, hnow, List.append_assoc]
        rfl
      · rw [List.map_append, hanswer, hanswers]
        rfl

/-- **Letting time pass is part of a run.** -/
theorem Reachable.advance (h : Reachable timeout timed) (hlimit : timed.clock ≤ limit) :
    ∃ next, Reachable timeout next ∧ next.clock = limit ∧ next.episodes = timed.episodes ∧
      next.run.engine = (timed.run.engine.advance limit).1 ∧
      ∃ evictions, next.evictions = timed.evictions ++ evictions ∧
        evictions.map Eviction.answer = (timed.run.engine.advance limit).2 :=
  h.wakeWithin hlimit (Engine.rounds_le timed.run.engine limit)

end TimedRun

end SensorGateway
