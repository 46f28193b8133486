import SensorGateway.Proofs.Shard.Capacity
import SensorGateway.Proofs.Shard.Punctuality

/-!
# No reassembly lives for ever

Every progress puts the deadline of a reassembly off, so a stream of pieces could keep one alive if
a piece could be progress again and again. It cannot: what advances a reassembly is a number that it
has not accepted yet, and there are `127` besides that of the piece which has opened it. A `Ledger`
keeps the numbers and the moments of all progress. Between two entries there is the timeout at most,
because the first deadline that comes without progress is the end. So whatever frames arrive, a
reassembly is gone when `128` timeouts have passed since it was opened (`Reachable.mortal`).
-/

namespace SensorGateway

/-! ### What a reassembly lives on -/

/-- When a reassembly was opened, and which pieces have brought it forward at which moments. -/
structure Ledger where
  opened : Time
  advances : List (Nat × Time)
deriving DecidableEq, Inhabited

namespace Ledger

def numbers (ledger : Ledger) : List Nat :=
  ledger.advances.map Prod.fst

/-- The moment of the last progress. -/
def last (ledger : Ledger) : Time :=
  (ledger.advances.getLast?.map Prod.snd).getD ledger.opened

def advance (ledger : Ledger) (number : Nat) (now : Time) : Ledger :=
  { ledger with advances := ledger.advances ++ [(number, now)] }

/-- Every piece but the first one has brought the reassembly forward once at most, and between two
advances there was no more time than the timeout. -/
structure Sane (ledger : Ledger) (timeout : Time) : Prop where
  nodup : ledger.numbers.Nodup
  range : ∀ number ∈ ledger.numbers, 0 < number ∧ number < ShardPiece.maximumPieces
  last_le : ledger.last ≤ ledger.opened + ledger.advances.length * timeout

/-- The ledger of a reassembly that is there: its deadline has been set by the last entry, and the
pieces in it have been accepted. -/
structure Tends (ledger : Ledger) (timeout : Time) (assembly : Assembly) : Prop where
  deadline_eq : assembly.deadline = ledger.last + timeout
  backed : ∃ received, assembly.Backed received ∧
    ∀ number ∈ 0 :: ledger.numbers, ∃ piece ∈ received, piece.piece = number

variable {ledger : Ledger} {timeout now : Time} {assembly : Assembly} {piece : ShardPiece}
  {payload : Bytes}

theorem numbers_advance (ledger : Ledger) (number : Nat) (now : Time) :
    (ledger.advance number now).numbers = ledger.numbers ++ [number] := by
  rw [numbers, advance, List.map_append]
  rfl

theorem last_advance (ledger : Ledger) (number : Nat) (now : Time) :
    (ledger.advance number now).last = now := by
  rw [last, advance, List.getLast?_concat]
  rfl

theorem sane_open (now timeout : Time) : Sane ⟨now, []⟩ timeout where
  nodup := List.nodup_nil
  range := List.forall_mem_nil _
  last_le := Nat.le_add_right _ _

theorem Sane.length_le (h : ledger.Sane timeout) : ledger.advances.length ≤ 127 := by
  have hsub : ledger.numbers ⊆ List.range' 1 127 := by
    intro number hmem
    have hrange := h.range number hmem
    rw [ShardPiece.maximumPieces] at hrange
    rw [List.mem_range'_1]
    omega
  have hlength := (List.Nodup.subperm h.nodup hsub).length_le
  rwa [numbers, List.length_map, List.length_range'] at hlength

theorem Sane.last_add_le (h : ledger.Sane timeout) :
    ledger.last + timeout ≤ ledger.opened + 128 * timeout :=
  calc ledger.last + timeout
      ≤ ledger.opened + ledger.advances.length * timeout + timeout :=
        Nat.add_le_add_right h.last_le timeout
    _ = ledger.opened + (ledger.advances.length + 1) * timeout := by
        rw [Nat.add_assoc, Nat.succ_mul]
    _ ≤ ledger.opened + 128 * timeout :=
        Nat.add_le_add_left (Nat.mul_le_mul_right timeout (Nat.succ_le_succ h.length_le)) _

/-- The ledger after a piece that has been accepted. -/
def enter (ledger : Ledger) (assembly : Assembly) (number : Nat) (now : Time) : Ledger :=
  if assembly.advancesOn number then ledger.advance number now else ledger

theorem Sane.enter (h : ledger.Sane timeout) (htends : ledger.Tends timeout assembly)
    (hparse : ShardPiece.parse payload = .ok piece) (hnow : now ≤ assembly.deadline) :
    (ledger.enter assembly piece.piece now).Sane timeout := by
  unfold Ledger.enter
  split_ifs with hadvances
  · obtain ⟨received, hbacked, hthere⟩ := htends.backed
    have hnew : piece.piece ∉ 0 :: ledger.numbers := by
      intro hmem
      obtain ⟨other, hother, hnumber⟩ := hthere _ hmem
      exact hbacked.piece_ne_of_advancesOn hadvances other hother hnumber
    rw [List.mem_cons, not_or] at hnew
    constructor
    case nodup =>
      rw [numbers_advance, List.nodup_append_comm]
      exact List.nodup_cons.mpr ⟨hnew.2, h.nodup⟩
    case range =>
      rw [numbers_advance, List.forall_mem_append, List.forall_mem_singleton]
      exact ⟨h.range, Nat.pos_of_ne_zero hnew.1, ShardPiece.piece_lt_of_parse hparse⟩
    case last_le =>
      rw [last_advance]
      calc now ≤ ledger.last + timeout := htends.deadline_eq ▸ hnow
        _ ≤ ledger.opened + ledger.advances.length * timeout + timeout :=
          Nat.add_le_add_right h.last_le timeout
        _ = ledger.opened + (ledger.advance piece.piece now).advances.length * timeout := by
          rw [advance, List.length_append, List.length_singleton, Nat.add_assoc, Nat.succ_mul]
  · exact h

theorem tends_opening (table : ShardTable) (frame : Frame)
    (hparse : ShardPiece.parse payload = .ok piece) (hfirst : piece.piece = 0) (now : Time) :
    Tends ⟨now, []⟩ table.timeout (table.opening frame piece now) where
  deadline_eq := Assembly.start_deadline ..
  backed := by
    refine ⟨[piece], Assembly.backed_start _ _ hparse hfirst _, ?_⟩
    intro number hmem
    rw [List.mem_singleton.mp hmem]
    exact ⟨piece, List.mem_singleton_self piece, hfirst⟩

theorem Tends.enter (h : ledger.Tends timeout assembly)
    (hparse : ShardPiece.parse payload = .ok piece) (hshard : piece.shard = assembly.shard)
    (now : Time) :
    (ledger.enter assembly piece.piece now).Tends timeout
      (assembly.accept piece (now + timeout)) := by
  obtain ⟨received, hbacked, hthere⟩ := h.backed
  have hstill : ∀ number ∈ 0 :: ledger.numbers, ∃ other ∈ received ++ [piece],
      other.piece = number := by
    intro number hmem
    obtain ⟨other, hother, hnumber⟩ := hthere number hmem
    exact ⟨other, List.mem_append_left _ hother, hnumber⟩
  unfold Ledger.enter
  constructor
  case deadline_eq =>
    rw [Assembly.accept_deadline]
    split_ifs
    · rw [last_advance]
    · exact h.deadline_eq
  case backed =>
    refine ⟨received ++ [piece], hbacked.accept hparse hshard _, ?_⟩
    split_ifs
    · rw [numbers_advance, ← List.cons_append, List.forall_mem_append, List.forall_mem_singleton]
      exact ⟨hstill, piece, by simp, rfl⟩
    · exact hstill

end Ledger

/-! ### The ledgers of a table -/

namespace ShardTable

/-- The ledgers, by generation, after a frame: a reassembly that is opened gets an empty one, and
progress is entered with the number of its piece. -/
def log (table : ShardTable) (ledgers : Nat → Ledger) (frame : Frame) (now : Time) :
    Nat → Ledger :=
  match ShardPiece.parse frame.payload, (table.process frame now).2.progress with
  | .ok piece, some _ =>
    match (table.assembly? frame.identity).filter fun assembly =>
        assembly.shard == piece.shard with
    | some assembly =>
      Function.update ledgers assembly.generation
        ((ledgers assembly.generation).advance piece.piece now)
    | none => Function.update ledgers (table.generation + 1) ⟨now, []⟩
  | _, _ => ledgers

/-- The ledgers are in order, and there is one for each reassembly. -/
structure Logged (table : ShardTable) (ledgers : Nat → Ledger) : Prop where
  sane : ∀ generation, (ledgers generation).Sane table.timeout
  tended : ∀ identity assembly, table.assembly? identity = some assembly →
    (ledgers assembly.generation).Tends table.timeout assembly

variable {table : ShardTable} {ledgers : Nat → Ledger} {frame : Frame} {now : Time}
  {piece : ShardPiece} {assembly : Assembly}

theorem log_of_not_admits
    (hrefused : frame.fragmented = true → ∀ piece, ShardPiece.parse frame.payload = .ok piece →
      ¬ table.Admits frame.identity piece) : table.log ledgers frame now = ledgers := by
  unfold log
  rw [(table.unmoved_of_not_admits frame now hrefused).2]
  cases ShardPiece.parse frame.payload <;> rfl

theorem log_of_isOpening (hpiece : frame.fragmented = true)
    (hparse : ShardPiece.parse frame.payload = .ok piece)
    (hopening : table.IsOpening frame.identity piece) :
    table.log ledgers frame now =
      Function.update ledgers (table.generation + 1) ⟨now, []⟩ := by
  have hjoin := filter_assembly?_eq_none table hopening.2
  have hprogress : (table.process frame now).2.progress = some (now + table.timeout) := by
    rw [process_of_isOpening table now hpiece hparse hopening, progress_openShard]
  unfold log
  simp only [hparse, hprogress, hjoin]

theorem log_of_isCollecting (hpiece : frame.fragmented = true)
    (hparse : ShardPiece.parse frame.payload = .ok piece)
    (hcollecting : table.IsCollecting frame.identity piece assembly)
    (hend : assembly.isPastEnd piece.piece = false) :
    table.log ledgers frame now =
      Function.update ledgers assembly.generation
        ((ledgers assembly.generation).enter assembly piece.piece now) := by
  have hjoin := hcollecting.filter_eq
  have hprogress : (table.process frame now).2.progress =
      if assembly.advancesOn piece.piece then some (now + table.timeout) else none := by
    rw [process_of_isCollecting table now hpiece hparse hcollecting,
      progress_continueShard table now frame.identity hend]
  unfold log Ledger.enter
  rw [hprogress, hparse]
  split_ifs with hadvances
  · simp only [hjoin]
  · rw [Function.update_eq_self]

theorem log_apply_of_ne {generation : Nat}
    (hother : ∀ assembly, table.assembly? frame.identity = some assembly →
      generation ≠ assembly.generation)
    (hold : generation ≠ table.generation + 1) :
    table.log ledgers frame now generation = ledgers generation := by
  unfold log
  cases ShardPiece.parse frame.payload with
  | error => rfl
  | ok piece =>
    cases (table.process frame now).2.progress with
    | none => rfl
    | some =>
      dsimp only
      cases hjoin : (table.assembly? frame.identity).filter (·.shard == piece.shard) with
      | some assembly =>
        obtain ⟨hfound, _⟩ := Option.filter_eq_some_iff.mp hjoin
        exact Function.update_of_ne (hother assembly hfound) _ _
      | none => exact Function.update_of_ne hold _ _

theorem Logged.sane_log (h : table.Logged ledgers) (frame : Frame)
    (hclock : ∀ identity assembly, table.assembly? identity = some assembly →
      now ≤ assembly.deadline) (generation : Nat) :
    (table.log ledgers frame now generation).Sane table.timeout := by
  by_cases hadmitted : frame.fragmented = true ∧
      ∃ piece, ShardPiece.parse frame.payload = .ok piece ∧ table.Admits frame.identity piece
  · obtain ⟨hpiece, piece, hparse, hopening | ⟨assembly, hcollecting, hend⟩⟩ := hadmitted
    · rw [log_of_isOpening hpiece hparse hopening]
      by_cases hnew : generation = table.generation + 1
      · rw [hnew, Function.update_self]
        exact Ledger.sane_open now table.timeout
      · rw [Function.update_of_ne hnew]
        exact h.sane generation
    · rw [log_of_isCollecting hpiece hparse hcollecting hend]
      by_cases hown : generation = assembly.generation
      · rw [hown, Function.update_self]
        exact (h.sane _).enter (h.tended _ assembly hcollecting.1) hparse
          (hclock _ assembly hcollecting.1)
      · rw [Function.update_of_ne hown]
        exact h.sane generation
  · rw [log_of_not_admits]
    · exact h.sane generation
    · exact fun hpiece piece hparse hadmits => hadmitted ⟨hpiece, piece, hparse, hadmits⟩

theorem Logged.process (h : table.Logged ledgers) (hordered : table.Ordered) (frame : Frame)
    (hclock : ∀ identity assembly, table.assembly? identity = some assembly →
      now ≤ assembly.deadline) :
    (table.process frame now).1.Logged (table.log ledgers frame now) := by
  constructor
  case sane =>
    rw [timeout_process]
    exact h.sane_log frame hclock
  case tended =>
    intro identity assembly hfound
    rw [timeout_process]
    cases origin_of_assembly?_process hfound with
    | elsewhere _ _ hne hbefore =>
      rw [log_apply_of_ne]
      · exact h.tended identity assembly hbefore
      · intro another hanother hsame
        exact hne (hordered.assembly_unique hbefore hanother hsame).1
      · exact hordered.ne_of_assembly? hbefore
    | kept _ hbefore hrefused =>
      rw [log_of_not_admits hrefused]
      exact h.tended frame.identity assembly hbefore
    | opened piece hpiece hparse hopening =>
      rw [log_of_isOpening hpiece hparse hopening, generation_opening, Function.update_self]
      exact Ledger.tends_opening table frame hparse hopening.1 now
    | joined piece previous hpiece hparse hcollecting hend =>
      rw [log_of_isCollecting hpiece hparse hcollecting hend, Assembly.accept_generation,
        Function.update_self]
      exact (h.tended frame.identity previous hcollecting.1).enter hparse hcollecting.2.symm now

theorem Logged.erase (h : table.Logged ledgers) (identity : Identity) :
    Logged { table with assemblies := table.assemblies.erase identity } ledgers where
  sane := h.sane
  tended other assembly hfound := h.tended other assembly (of_assembly?_erase hfound).2

theorem Logged.stored_le (h : table.Logged ledgers) {identity : Identity}
    (hfound : table.assembly? identity = some assembly) :
    assembly.stored ≤ ShardPiece.maximumPieces * ShardPiece.maximumLength := by
  obtain ⟨received, hbacked, _⟩ := (h.tended identity assembly hfound).backed
  exact hbacked.stored_le

/-- What comes out has been stored just before. -/
theorem Logged.payload_le (h : table.Logged ledgers) (hpiece : frame.fragmented = true)
    {whole : Frame} (hwhole : (table.process frame now).2.completed = some whole) :
    whole.payload.length ≤ ShardPiece.maximumPieces * ShardPiece.maximumLength := by
  cases completion_of_process hpiece hwhole with
  | opened piece hparse hopening =>
    exact (Assembly.backed_start _ frame.header hparse hopening.1 _).accumulated_le
  | joined piece previous hparse hcollecting =>
    obtain ⟨received, hbacked, _⟩ := (h.tended _ previous hcollecting.1).backed
    exact (hbacked.accept hparse hcollecting.2.symm _).accumulated_le

end ShardTable

/-! ### Runs with ledgers -/

theorem Engine.logged_poll {engine : Engine} {ledgers : Nat → Ledger}
    (h : engine.table.Logged ledgers) (identity : Identity) (generation : Nat) (now : Time) :
    (engine.poll identity generation now).1.table.Logged ledgers := by
  by_cases hown : ∃ assembly, engine.table.assembly? identity = some assembly ∧
      assembly.generation = generation
  · obtain ⟨assembly, hfound, rfl⟩ := hown
    rcases Nat.lt_or_ge now assembly.deadline with hearly | hlate
    · rw [poll_of_early hfound hearly]
      exact h
    · rw [poll_of_late hfound hlate]
      exact h.erase identity
  · rw [poll_of_ne fun assembly hfound hsame => hown ⟨assembly, hfound, hsame⟩]
    exact h

namespace TimedRun

/-- After the end of the engine nothing is entered any more. -/
def log (timed : TimedRun) (ledgers : Nat → Ledger) (frame : Frame) : Nat → Ledger :=
  if timed.run.engine.isShutDown then ledgers
  else timed.run.engine.table.log ledgers frame timed.clock

/-- A run with a clock and the ledgers that have been kept beside it. -/
inductive Chronicled (timeout : Time) : TimedRun → (Nat → Ledger) → Prop where
  | start (clock : Time) : Chronicled timeout (start timeout clock) fun _ => default
  | submit {timed ledgers} (h : Chronicled timeout timed ledgers) (frame : Frame) :
      Chronicled timeout (timed.submit frame) (timed.log ledgers frame)
  | poll {timed ledgers} (h : Chronicled timeout timed ledgers) (identity : Identity)
      (timer : Timer) (htask : (identity, timer) ∈ timed.run.tasks)
      (hwake : timer.wake ≤ timed.clock) :
      Chronicled timeout (timed.poll identity timer) ledgers
  | send {timed ledgers} (h : Chronicled timeout timed ledgers) (notice : Notice)
      (hunsent : notice ∈ timed.run.unsent) : Chronicled timeout (timed.send notice) ledgers
  | shutdown {timed ledgers} (h : Chronicled timeout timed ledgers) :
      Chronicled timeout timed.shutdown ledgers
  | pass {timed ledgers} (h : Chronicled timeout timed ledgers) (later : Time)
      (hlater : timed.clock ≤ later)
      (hdue : ∀ identity timer, timed.run.engine.timers.get? identity = some timer →
        later ≤ timer.wake) : Chronicled timeout (timed.pass later) ledgers

/-- No reassembly lives for ever. -/
structure Mortal (timeout : Time) (timed : TimedRun) (ledgers : Nat → Ledger) : Prop where
  advances_le : ∀ generation, (ledgers generation).advances.length ≤ 127
  numbers_nodup : ∀ generation, (ledgers generation).numbers.Nodup
  numbers_range : ∀ generation, ∀ number ∈ (ledgers generation).numbers,
    1 ≤ number ∧ number ≤ 127
  /-- Nothing but progress moves a deadline. -/
  deadline_eq : ∀ identity assembly, timed.run.engine.table.assembly? identity = some assembly →
    assembly.deadline = (ledgers assembly.generation).last + timeout
  gone : ∀ generation ∈ timed.run.opened,
    (ledgers generation).opened + 128 * timeout < timed.clock →
      ∃ way, (generation, some way) ∈ timed.run.departed
  /-- At the last moment a task is due that has not ended, and it takes away what is still there. -/
  due : ∀ generation ∈ timed.run.opened,
    (ledgers generation).opened + 128 * timeout = timed.clock →
      (∃ way, (generation, some way) ∈ timed.run.departed) ∨
        ∃ identity, (identity, ⟨generation, timed.clock⟩) ∈ timed.run.tasks ∧
          (generation, some .evicted) ∈
            (timed.poll identity ⟨generation, timed.clock⟩).run.departed
  stored_le : ∀ identity assembly, timed.run.engine.table.assembly? identity = some assembly →
    assembly.stored ≤ 128 * 65535
  payload_le : ∀ frame whole, frame.fragmented = true →
    (timed.run.engine.submit frame timed.clock).2.result = .ok (some whole) →
      whole.payload.length ≤ 128 * 65535

variable {timeout : Time} {timed : TimedRun} {ledgers : Nat → Ledger}

theorem Reachable.exists_chronicled (h : Reachable timeout timed) :
    ∃ ledgers, Chronicled timeout timed ledgers := by
  induction h with
  | start clock => exact ⟨_, .start clock⟩
  | step _ hstep ih =>
    obtain ⟨ledgers, ih⟩ := ih
    cases hstep with
    | submit frame => exact ⟨_, ih.submit frame⟩
    | poll identity timer htask hwake => exact ⟨_, ih.poll identity timer htask hwake⟩
    | send notice hunsent => exact ⟨_, ih.send notice hunsent⟩
    | shutdown => exact ⟨_, ih.shutdown⟩
    | pass later hlater hdue => exact ⟨_, ih.pass later hlater hdue⟩

/-- It is enough to look at the entries of the timers. -/
theorem Chronicled.pass_of_entries (h : Chronicled timeout timed ledgers) (later : Time)
    (hlater : timed.clock ≤ later)
    (hdue : ∀ entry ∈ timed.run.engine.timers.entries, later ≤ entry.2.wake) :
    Chronicled timeout (timed.pass later) ledgers :=
  h.pass later hlater fun _ _ htimer => hdue _ (Keyed.mem_entries_of_get? htimer)

theorem Chronicled.reachable (h : Chronicled timeout timed ledgers) :
    Reachable timeout timed := by
  induction h with
  | start clock => exact .start clock
  | submit _ frame ih => exact .step ih (.submit frame)
  | poll _ identity timer htask hwake ih => exact .step ih (.poll identity timer htask hwake)
  | send _ notice hunsent ih => exact .step ih (.send notice hunsent)
  | shutdown _ ih => exact .step ih .shutdown
  | pass _ later hlater hdue ih => exact .step ih (.pass later hlater hdue)

theorem Chronicled.logged (h : Chronicled timeout timed ledgers) :
    timed.run.engine.table.Logged ledgers := by
  induction h with
  | start => exact ⟨fun _ => Ledger.sane_open 0 timeout, fun _ _ hfound => nomatch hfound⟩
  | submit h frame ih =>
    rename_i timed ledgers
    have hsound := h.reachable.toRun.sound
    have htimely := h.reachable.timely
    change (timed.run.engine.submit frame timed.clock).1.table.Logged (timed.log ledgers frame)
    unfold log
    cases hclosed : timed.run.engine.isShutDown with
    | true =>
      rw [(Engine.submit_of_isShutDown hclosed frame timed.clock).1]
      exact ih
    | false =>
      rw [(Engine.submit_of_not_isShutDown hclosed frame timed.clock).1]
      exact ih.process hsound.ordered frame fun _ _ hfound => htimely.clock_le hsound hfound
  | poll _ identity timer _ _ ih => exact Engine.logged_poll ih identity timer.generation _
  | send _ _ _ ih => exact ih
  | shutdown _ ih => exact ⟨ih.sane, fun _ _ hfound => nomatch hfound⟩
  | pass _ _ _ _ ih => exact ih

/-! ### What it says -/

theorem Chronicled.clock_le (h : Chronicled timeout timed ledgers) {identity : Identity}
    {assembly : Assembly}
    (hfound : timed.run.engine.table.assembly? identity = some assembly) :
    timed.clock ≤ assembly.deadline ∧
      assembly.deadline ≤ (ledgers assembly.generation).opened + 128 * timeout := by
  have htimely := h.reachable.timely
  have hlogged := h.logged
  have htends := hlogged.tended identity assembly hfound
  have hsane := hlogged.sane assembly.generation
  rw [htimely.timeout_eq] at htends hsane
  refine ⟨htimely.clock_le h.reachable.toRun.sound hfound, ?_⟩
  rw [htends.deadline_eq]
  exact hsane.last_add_le

theorem Chronicled.active_or_departed (h : Chronicled timeout timed ledgers) {generation : Nat}
    (hopened : generation ∈ timed.run.opened) :
    (∃ identity assembly, timed.run.engine.table.assembly? identity = some assembly ∧
        assembly.generation = generation) ∨
      ∃ way, (generation, some way) ∈ timed.run.departed := by
  have hsound := h.reachable.toRun.sound
  rcases List.mem_append.mp (hsound.balance.mem_iff.mp hopened) with hactive | hdeparted
  · exact Or.inl (hsound.ordered.mem_generations_iff.mp hactive)
  · obtain ⟨departure, hmem, rfl⟩ := List.mem_map.mp hdeparted
    obtain ⟨way, heq⟩ := hsound.explained departure hmem
    exact Or.inr ⟨way, heq ▸ hmem⟩

/-- A reassembly whose deadline has come is given up now. -/
theorem Chronicled.due (h : Chronicled timeout timed ledgers) {identity : Identity}
    {assembly : Assembly}
    (hfound : timed.run.engine.table.assembly? identity = some assembly)
    (hlate : assembly.deadline ≤ timed.clock) :
    (identity, ⟨assembly.generation, timed.clock⟩) ∈ timed.run.tasks ∧
      (assembly.generation, some .evicted) ∈
        (timed.poll identity ⟨assembly.generation, timed.clock⟩).run.departed := by
  have hsound := h.reachable.toRun.sound
  obtain ⟨timer, htimer, hgeneration⟩ := hsound.timed.exists_timer hfound
  obtain ⟨hdue, hwake⟩ := h.reachable.timely.prompt.wake identity timer assembly htimer hfound
  have hnow : timer = ⟨assembly.generation, timed.clock⟩ := by
    rw [← Nat.le_antisymm (Nat.le_trans hwake hlate) hdue, ← hgeneration]
  constructor
  · exact hnow ▸ hsound.armed _ (Keyed.mem_entries_of_get? htimer)
  · exact (hsound.mem_departed_poll hfound rfl hlate _).mpr (Or.inr rfl)

/-- **No reassembly lives for ever**, whatever frames arrive. -/
theorem Reachable.mortal (h : Reachable timeout timed) :
    (∃ ledgers, Chronicled timeout timed ledgers) ∧
      ∀ ledgers, Chronicled timeout timed ledgers → timed.Mortal timeout ledgers := by
  refine ⟨h.exists_chronicled, fun ledgers hchronicled => ?_⟩
  have hlogged := hchronicled.logged
  constructor
  case advances_le => exact fun generation => (hlogged.sane generation).length_le
  case numbers_nodup => exact fun generation => (hlogged.sane generation).nodup
  case numbers_range =>
    intro generation number hmem
    obtain ⟨hpos, hlt⟩ := (hlogged.sane generation).range number hmem
    exact ⟨hpos, Nat.le_of_lt_succ hlt⟩
  case deadline_eq =>
    intro identity assembly hfound
    rw [← h.timely.timeout_eq]
    exact (hlogged.tended identity assembly hfound).deadline_eq
  case gone =>
    intro generation hopened hlate
    obtain ⟨identity, assembly, hfound, rfl⟩ | hdeparted := hchronicled.active_or_departed hopened
    · obtain ⟨hclock, hdeadline⟩ := hchronicled.clock_le hfound
      exact absurd (Nat.le_trans hclock hdeadline) (Nat.not_le.mpr hlate)
    · exact hdeparted
  case due =>
    intro generation hopened hlast
    obtain ⟨identity, assembly, hfound, rfl⟩ | hdeparted := hchronicled.active_or_departed hopened
    · have hlate := (hchronicled.clock_le hfound).2
      rw [hlast] at hlate
      exact Or.inr ⟨identity, hchronicled.due hfound hlate⟩
    · exact Or.inl hdeparted
  case stored_le => exact fun _ _ => hlogged.stored_le
  case payload_le =>
    intro frame whole hpiece hwhole
    cases hclosed : timed.run.engine.isShutDown with
    | true =>
      rw [(Engine.submit_of_isShutDown hclosed frame timed.clock).2] at hwhole
      cases hwhole
    | false =>
      rw [(Engine.submit_of_not_isShutDown hclosed frame timed.clock).2, Except.ok.injEq] at hwhole
      exact hlogged.payload_le hpiece hwhole

/-- The third piece of the shard that `EngineRun.lonePiece` begins. -/
def thirdPiece : Frame :=
  Frame.make EngineRun.lonePiece.identity (Header.make 1 true .alarm) [7, 2, 1, 0, 3]

/-- The third piece comes at moment 15 and once more at moment 20, when the timer wakes up and goes
on sleeping until moment 35. -/
def hoardingRun : TimedRun :=
  let early := (((start 20 0).submit EngineRun.lonePiece).pass 15).submit thirdPiece
  ((early.pass 20).submit thirdPiece).poll thirdPiece.identity ⟨1, 20⟩

/-- The second piece has come at moment 30, and there is no end mark. -/
def exhaustedRun : TimedRun :=
  let merged := (hoardingRun.pass 30).submit secondPiece
  ((merged.pass 35).poll thirdPiece.identity ⟨1, 35⟩).pass 50

theorem mortal_exhaustedRun :
    ∃ ledgers, Chronicled 20 exhaustedRun ledgers ∧ exhaustedRun.Mortal 20 ledgers ∧
      ledgers 1 = ⟨0, [(2, 15), (1, 30)]⟩ := by
  have hstarted : Chronicled 20 (start 20 0) _ := .start 0
  have hopened := hstarted.submit EngineRun.lonePiece
  have hearly := (hopened.pass_of_entries 15 (by decide) (by decide +kernel)).submit thirdPiece
  have hagain := (hearly.pass_of_entries 20 (by decide) (by decide +kernel)).submit thirdPiece
  have hhoarding : Chronicled 20 hoardingRun _ :=
    hagain.poll thirdPiece.identity ⟨1, 20⟩ (by decide +kernel) (by decide)
  have hmerged := (hhoarding.pass_of_entries 30 (by decide) (by decide +kernel)).submit secondPiece
  have hwoken := (hmerged.pass_of_entries 35 (by decide) (by decide +kernel)).poll
    thirdPiece.identity ⟨1, 35⟩ (by decide +kernel) (by decide)
  have hexhausted : Chronicled 20 exhaustedRun _ :=
    hwoken.pass_of_entries 50 (by decide) (by decide +kernel)
  exact ⟨_, hexhausted, (Reachable.mortal hexhausted.reachable).2 _ hexhausted,
    by decide +kernel⟩

end TimedRun

end SensorGateway
