import Mathlib.Data.List.Nodup
import Mathlib.Order.Monotone.Basic
import SensorGateway.Proofs.Shard.Generations

/-!
# Sensors do not interfere

The sensors share one table and one counter of generations. A call for a sensor reads nothing of the
table but this sensor's reassembly, the timeout and the counter, and the counter shows in nothing
but the generation of a reassembly that the call opens. So the calls for a sensor lead to what they
would lead to if nobody else used the table, once the generations are renamed (`trace_alone`).

The renaming is fixed beforehand, from the generations that the sensor will be given; what a step
has to know about it is that it takes the next of these to the next generation of the other table.
-/

namespace SensorGateway

/-! ### Renaming generations -/

def TimerAction.rename (rename : Nat → Nat) : TimerAction → TimerAction
  | .start generation deadline => .start (rename generation) deadline
  | .cancel => .cancel
  | .keep => .keep

def PieceOutcome.rename (rename : Nat → Nat) (outcome : PieceOutcome) : PieceOutcome :=
  { outcome with timer := outcome.timer.rename rename }

namespace Assembly

def rename (rename : Nat → Nat) (assembly : Assembly) : Assembly :=
  { assembly with generation := rename assembly.generation }

variable (rename : Nat → Nat) (assembly : Assembly)

theorem merge_rename (count : Nat) :
    merge count (assembly.rename rename) = (merge count assembly).rename rename := by
  induction count generalizing assembly with
  | zero => rfl
  | succ count ih =>
    have hearly : (assembly.rename rename).early.get? (assembly.rename rename).expected =
        assembly.early.get? assembly.expected := rfl
    rw [merge, merge, hearly]
    cases assembly.early.get? assembly.expected with
    | none => rfl
    | some body =>
      exact ih
        { assembly with
          accumulated := assembly.accumulated ++ body
          early := assembly.early.erase assembly.expected
          expected := assembly.expected + 1 }

theorem append_rename (body : Bytes) :
    (assembly.rename rename).append body = (assembly.append body).rename rename :=
  merge_rename rename
    { assembly with
      accumulated := assembly.accumulated ++ body
      expected := assembly.expected + 1 } assembly.early.size

theorem start_rename (generation : Nat) (header : Header) (piece : ShardPiece) (deadline : Time) :
    start (rename generation) header piece deadline =
      (start generation header piece deadline).rename rename :=
  append_rename rename
    { generation, shard := piece.shard, expected := 0, accumulated := [], early := Keyed.empty,
      final := if piece.final then some piece.piece else none, lastPiece := piece.piece,
      paramCount := header.paramCount, packetType := header.packetType, deadline } piece.data

theorem accept_rename (piece : ShardPiece) (deadline : Time) :
    (assembly.rename rename).accept piece deadline =
      (assembly.accept piece deadline).rename rename := by
  have hexpected : (assembly.rename rename).expected = assembly.expected := rfl
  have hearly : (assembly.rename rename).early = assembly.early := rfl
  unfold accept
  simp only [append_rename, hexpected, hearly]
  split_ifs <;> rfl

end Assembly

namespace ShardTable

/-! ### Calls on a table -/

/-- What can be asked of a table for one sensor. -/
inductive Call where
  | process (frame : Frame) (now : Time)
  | expire (identity : Identity) (generation : Nat) (now : Time)

inductive Answer where
  | processed (outcome : PieceOutcome)
  | expired (expiry : Expiry)

namespace Call

def identity : Call → Identity
  | .process frame _ => frame.identity
  | .expire identity _ _ => identity

def rename (rename : Nat → Nat) : Call → Call
  | .process frame now => .process frame now
  | .expire identity generation now => .expire identity (rename generation) now

end Call

def Answer.rename (rename : Nat → Nat) : Answer → Answer
  | .processed outcome => .processed (outcome.rename rename)
  | .expired expiry => .expired expiry

def call (table : ShardTable) : Call → ShardTable × Answer
  | .process frame now =>
    let (after, outcome) := table.process frame now
    (after, .processed outcome)
  | .expire identity generation now =>
    let (after, expiry) := table.expire identity generation now
    (after, .expired expiry)

def afterCalls (table : ShardTable) (calls : List Call) : ShardTable :=
  calls.foldl (fun table call => (table.call call).1) table

/-- Calls made one after the other, each with its answer. -/
def trace (table : ShardTable) : List Call → List (Call × Answer)
  | [] => []
  | call :: rest => (call, (table.call call).2) :: trace (table.call call).1 rest

/-- The generations that the reassemblies of a sensor are given, whether or not they last longer
than the call. -/
def given (identity : Identity) (table : ShardTable) : List Call → List Nat
  | [] => []
  | call :: rest =>
    let after := (table.call call).1
    if call.identity = identity ∧ after.generation ≠ table.generation then
      after.generation :: given identity after rest
    else given identity after rest

/-- A table that treats one sensor as another table does, up to the names of generations. -/
structure Alone (rename : Nat → Nat) (identity : Identity) (shared alone : ShardTable) : Prop where
  timeout_eq : alone.timeout = shared.timeout
  assembly_eq : alone.assembly? identity = (shared.assembly? identity).map (Assembly.rename rename)

variable {rename : Nat → Nat} {identity : Identity} {shared alone : ShardTable} {frame : Frame}
  {piece : ShardPiece} {now : Time}

/-! ### Other sensors -/

theorem generation_process_eq_or (table : ShardTable) (frame : Frame) (now : Time) :
    (table.process frame now).1.generation = table.generation ∨
      (table.process frame now).1.generation = table.generation + 1 := by
  have hcases := table.processed frame now
  cases hprocess : table.process frame now with
  | mk after outcome =>
    rw [hprocess] at hcases
    cases hcases with
    | whole | refused | joined | completed => exact Or.inl rfl
    | opened | openedWhole => exact Or.inr rfl

theorem assembly?_expire_of_ne (table : ShardTable) {other : Identity} (hne : other ≠ identity)
    (generation : Nat) (now : Time) :
    (table.expire identity generation now).1.assembly? other = table.assembly? other := by
  rcases table.expire_fst_eq_or identity generation now with hexpire | hexpire
  · rw [hexpire]
  · rw [hexpire]
    exact Keyed.get?_erase_of_ne _ hne

theorem timeout_expire (table : ShardTable) (identity : Identity) (generation : Nat) (now : Time) :
    (table.expire identity generation now).1.timeout = table.timeout := by
  rcases table.expire_fst_eq_or identity generation now with hexpire | hexpire
  · rw [hexpire]
  · rw [hexpire]

theorem generation_expire (table : ShardTable) (identity : Identity) (generation : Nat)
    (now : Time) :
    (table.expire identity generation now).1.generation = table.generation := by
  rcases table.expire_fst_eq_or identity generation now with hexpire | hexpire
  · rw [hexpire]
  · rw [hexpire]

theorem Alone.call_of_ne (h : Alone rename identity shared alone) {call : Call}
    (hne : call.identity ≠ identity) : Alone rename identity (shared.call call).1 alone := by
  cases call with
  | process frame now =>
    constructor
    · exact h.timeout_eq.trans (shared.timeout_process frame now).symm
    · rw [h.assembly_eq]
      exact congrArg _ (assembly?_process_of_ne shared frame now hne.symm).symm
  | expire other generation now =>
    constructor
    · exact h.timeout_eq.trans (shared.timeout_expire other generation now).symm
    · rw [h.assembly_eq]
      exact congrArg _ (shared.assembly?_expire_of_ne hne.symm generation now).symm

/-! ### The sensor's own calls -/

theorem Alone.isOpening_iff (h : Alone rename identity shared alone) :
    alone.IsOpening identity piece ↔ shared.IsOpening identity piece := by
  unfold IsOpening
  rw [h.assembly_eq]
  cases shared.assembly? identity with
  | none => simp
  | some assembly =>
    have hshard : (assembly.rename rename).shard = assembly.shard := rfl
    simp [hshard]

theorem Alone.isCollecting (h : Alone rename identity shared alone) {assembly : Assembly}
    (hcollecting : shared.IsCollecting identity piece assembly) :
    alone.IsCollecting identity piece (assembly.rename rename) := by
  refine ⟨?_, hcollecting.2⟩
  rw [h.assembly_eq, hcollecting.1]
  rfl

theorem Alone.admits_iff (h : Alone rename identity shared alone) :
    alone.Admits identity piece ↔ shared.Admits identity piece := by
  unfold Admits
  rw [h.isOpening_iff]
  apply or_congr Iff.rfl
  constructor
  · rintro ⟨assembly, ⟨hfound, hshard⟩, hend⟩
    rw [h.assembly_eq, Option.map_eq_some_iff] at hfound
    obtain ⟨original, hfound, rfl⟩ := hfound
    exact ⟨original, ⟨hfound, hshard⟩, hend⟩
  · rintro ⟨assembly, hcollecting, hend⟩
    exact ⟨assembly.rename rename, h.isCollecting hcollecting, hend⟩

theorem alone_insert (left right : Keyed Identity Assembly) (timeout : Time)
    (assembly : Assembly) (generation other : Nat) :
    Alone rename identity ⟨left.insert identity assembly, timeout, generation⟩
      ⟨right.insert identity (assembly.rename rename), timeout, other⟩ := by
  refine ⟨rfl, ?_⟩
  rw [assembly?_insert_self, assembly?_insert_self]
  rfl

theorem alone_erase (left right : Keyed Identity Assembly) (timeout : Time)
    (generation other : Nat) :
    Alone rename identity ⟨left.erase identity, timeout, generation⟩
      ⟨right.erase identity, timeout, other⟩ := by
  refine ⟨rfl, ?_⟩
  rw [assembly?_erase_self, assembly?_erase_self]
  rfl

theorem Alone.opening (h : Alone rename identity shared alone)
    (hnext : rename (shared.generation + 1) = alone.generation + 1) :
    alone.opening frame piece now = (shared.opening frame piece now).rename rename := by
  unfold ShardTable.opening
  rw [h.timeout_eq, ← hnext]
  exact Assembly.start_rename rename _ _ _ _

/-- A frame does the same to both tables. -/
theorem Alone.process (h : Alone rename frame.identity shared alone)
    (hnext : (shared.process frame now).1.generation ≠ shared.generation →
      rename (shared.generation + 1) = alone.generation + 1) :
    Alone rename frame.identity (shared.process frame now).1 (alone.process frame now).1 ∧
      (alone.process frame now).2 = (shared.process frame now).2.rename rename ∧
      ((alone.process frame now).1.generation + shared.generation =
        (shared.process frame now).1.generation + alone.generation) := by
  have hcases := shared.processed frame now
  cases hprocess : shared.process frame now with
  | mk after outcome =>
    rw [hprocess] at hcases hnext
    cases hcases with
    | whole hwhole =>
      have halone : Processed alone frame now _ := .whole hwhole
      rw [halone.process_eq]
      exact ⟨h, rfl, Nat.add_comm _ _⟩
    | refused hpiece hrefused =>
      have halone : Processed alone frame now _ := .refused hpiece
        fun piece hparse hadmits => hrefused piece hparse (h.admits_iff.mp hadmits)
      rw [halone.process_eq]
      exact ⟨h, rfl, Nat.add_comm _ _⟩
    | opened piece hpiece hparse hopening hincomplete =>
      have hgiven : rename (shared.generation + 1) = alone.generation + 1 :=
        hnext (Nat.succ_ne_self _)
      have hsame : alone.opening frame piece now =
          (shared.opening frame piece now).rename rename := h.opening hgiven
      have halone : Processed alone frame now _ :=
        .opened piece hpiece hparse (h.isOpening_iff.mpr hopening) (hsame ▸ hincomplete)
      rw [halone.process_eq, hsame, h.timeout_eq, ← hgiven]
      refine ⟨alone_insert .., rfl, ?_⟩
      dsimp only
      omega
    | openedWhole piece hpiece hparse hopening hcomplete =>
      have hgiven : rename (shared.generation + 1) = alone.generation + 1 :=
        hnext (Nat.succ_ne_self _)
      have hsame : alone.opening frame piece now =
          (shared.opening frame piece now).rename rename := h.opening hgiven
      have halone : Processed alone frame now _ :=
        .openedWhole piece hpiece hparse (h.isOpening_iff.mpr hopening) (hsame ▸ hcomplete)
      rw [halone.process_eq, hsame, h.timeout_eq]
      refine ⟨alone_erase .., rfl, ?_⟩
      dsimp only
      omega
    | joined piece assembly hpiece hparse hcollecting hend hincomplete =>
      have hsame := Assembly.accept_rename rename assembly piece (now + alone.timeout)
      have halone : Processed alone frame now _ :=
        .joined piece (assembly.rename rename) hpiece hparse (h.isCollecting hcollecting) hend
          (by rw [hsame, h.timeout_eq]; exact hincomplete)
      rw [halone.process_eq, hsame, h.timeout_eq]
      exact ⟨alone_insert .., rfl, Nat.add_comm _ _⟩
    | completed piece assembly hpiece hparse hcollecting hend hcomplete =>
      have hsame := Assembly.accept_rename rename assembly piece (now + alone.timeout)
      have halone : Processed alone frame now _ :=
        .completed piece (assembly.rename rename) hpiece hparse (h.isCollecting hcollecting) hend
          (by rw [hsame, h.timeout_eq]; exact hcomplete)
      rw [halone.process_eq, hsame, h.timeout_eq]
      exact ⟨alone_erase .., rfl, Nat.add_comm _ _⟩

/-- A wake-up finds the same in both tables, if no two generations are renamed alike. -/
theorem Alone.expire (h : Alone rename identity shared alone)
    (hinjective : Function.Injective rename) (generation : Nat) (now : Time) :
    Alone rename identity (shared.expire identity generation now).1
        (alone.expire identity (rename generation) now).1 ∧
      (alone.expire identity (rename generation) now).2 =
        (shared.expire identity generation now).2 := by
  by_cases hown : ∃ assembly, shared.assembly? identity = some assembly ∧
      assembly.generation = generation
  · obtain ⟨assembly, hfound, rfl⟩ := hown
    have halone : alone.assembly? identity = some (assembly.rename rename) := by
      rw [h.assembly_eq, hfound]
      rfl
    rcases Nat.lt_or_ge now assembly.deadline with hearly | hlate
    · have hsame : alone.expire identity (rename assembly.generation) now =
          (alone, .pending assembly.deadline) := expire_of_early halone hearly
      rw [expire_of_early hfound hearly, hsame]
      exact ⟨h, rfl⟩
    · have hsame : alone.expire identity (rename assembly.generation) now =
          ({ alone with assemblies := alone.assemblies.erase identity },
            .evicted (.reject assembly.shard assembly.lastPiece)) := expire_of_late halone hlate
      rw [expire_of_late hfound hlate, hsame, h.timeout_eq]
      exact ⟨alone_erase .., rfl⟩
  · have hother : ∀ assembly, shared.assembly? identity = some assembly →
        assembly.generation ≠ generation :=
      fun assembly hfound hsame => hown ⟨assembly, hfound, hsame⟩
    have halone : ∀ assembly, alone.assembly? identity = some assembly →
        assembly.generation ≠ rename generation := by
      intro assembly hfound hsame
      rw [h.assembly_eq, Option.map_eq_some_iff] at hfound
      obtain ⟨original, hfound, rfl⟩ := hfound
      exact hother original hfound (hinjective hsame)
    rw [expire_of_ne hother, expire_of_ne halone]
    exact ⟨h, rfl⟩

theorem Alone.call (h : Alone rename identity shared alone)
    (hinjective : Function.Injective rename) {call : Call} (hown : call.identity = identity)
    (hnext : (shared.call call).1.generation ≠ shared.generation →
      rename (shared.generation + 1) = alone.generation + 1) :
    Alone rename identity (shared.call call).1 (alone.call (call.rename rename)).1 ∧
      (alone.call (call.rename rename)).2 = (shared.call call).2.rename rename ∧
      (alone.call (call.rename rename)).1.generation + shared.generation =
        (shared.call call).1.generation + alone.generation := by
  subst hown
  cases call with
  | process frame now =>
    obtain ⟨hafter, houtcome, hgeneration⟩ := h.process hnext
    exact ⟨hafter, congrArg Answer.processed houtcome, hgeneration⟩
  | expire identity generation now =>
    obtain ⟨hafter, hexpiry⟩ := h.expire hinjective generation now
    refine ⟨hafter, congrArg Answer.expired hexpiry, ?_⟩
    change (alone.expire identity (rename generation) now).1.generation + shared.generation =
      (shared.expire identity generation now).1.generation + alone.generation
    rw [generation_expire, generation_expire, Nat.add_comm]

/-! ### Runs -/

theorem generation_call_eq_or (table : ShardTable) (call : Call) :
    (table.call call).1.generation = table.generation ∨
      (table.call call).1.generation = table.generation + 1 := by
  cases call with
  | process frame now => exact table.generation_process_eq_or frame now
  | expire identity generation now =>
    exact Or.inl (table.generation_expire identity generation now)

theorem given_cons_of_eq {call : Call} {rest : List Call}
    (hnone : call.identity = identity → (shared.call call).1.generation = shared.generation) :
    given identity shared (call :: rest) = given identity (shared.call call).1 rest := by
  rw [given]
  exact if_neg fun hgiven => hgiven.2 (hnone hgiven.1)

theorem given_cons_of_ne {call : Call} {rest : List Call} (hown : call.identity = identity)
    (hone : (shared.call call).1.generation ≠ shared.generation) :
    given identity shared (call :: rest) =
      (shared.call call).1.generation :: given identity (shared.call call).1 rest := by
  rw [given]
  exact if_pos ⟨hown, hone⟩

theorem Alone.run (h : Alone rename identity shared alone)
    (hinjective : Function.Injective rename) (calls : List Call)
    (hgiven : (given identity shared calls).map rename =
      List.range' (alone.generation + 1) (given identity shared calls).length) :
    ((shared.trace calls).filter fun step => step.1.identity = identity).map
          (fun step => (step.1.rename rename, step.2.rename rename)) =
        alone.trace ((calls.filter fun call => call.identity = identity).map
          (Call.rename rename)) ∧
      Alone rename identity (shared.afterCalls calls)
        (alone.afterCalls ((calls.filter fun call => call.identity = identity).map
          (Call.rename rename))) := by
  induction calls generalizing shared alone with
  | nil => exact ⟨rfl, h⟩
  | cons call rest ih =>
    by_cases hown : call.identity = identity
    · have hnext : (shared.call call).1.generation ≠ shared.generation →
          rename (shared.generation + 1) = alone.generation + 1 ∧
            (given identity (shared.call call).1 rest).map rename =
              List.range' (alone.generation + 2)
                (given identity (shared.call call).1 rest).length := by
        intro hone
        have hnumber := (shared.generation_call_eq_or call).resolve_left hone
        rw [given_cons_of_ne hown hone, hnumber, List.map_cons, List.length_cons,
          List.range'_succ, List.cons.injEq] at hgiven
        exact hgiven
      obtain ⟨hafter, hanswer, hgeneration⟩ :=
        h.call hinjective hown fun hone => (hnext hone).1
      have hrest : (given identity (shared.call call).1 rest).map rename =
          List.range' ((alone.call (call.rename rename)).1.generation + 1)
            (given identity (shared.call call).1 rest).length := by
        by_cases hone : (shared.call call).1.generation = shared.generation
        · have hkept : (alone.call (call.rename rename)).1.generation = alone.generation := by
            omega
          rwa [given_cons_of_eq fun _ => hone, ← hkept] at hgiven
        · have hnumber := (shared.generation_call_eq_or call).resolve_left hone
          have hcounted : (alone.call (call.rename rename)).1.generation =
              alone.generation + 1 := by
            omega
          rw [hcounted]
          exact (hnext hone).2
      obtain ⟨htrace, hfinal⟩ := ih hafter hrest
      rw [List.filter_cons_of_pos (by simpa using hown)]
      refine ⟨?_, hfinal⟩
      rw [trace, List.filter_cons_of_pos (by simpa using hown), List.map_cons, List.map_cons, trace,
        htrace, hanswer]
    · have hother : given identity shared (call :: rest) =
          given identity (shared.call call).1 rest :=
        given_cons_of_eq fun heq => absurd heq hown
      rw [hother] at hgiven
      obtain ⟨htrace, hfinal⟩ := ih (h.call_of_ne hown) hgiven
      rw [List.filter_cons_of_neg (by simpa using hown)]
      refine ⟨?_, hfinal⟩
      rw [trace, List.filter_cons_of_neg (by simpa using hown), htrace]

theorem lt_of_mem_given {calls : List Call} {generation : Nat}
    (hmem : generation ∈ given identity shared calls) : shared.generation < generation := by
  induction calls generalizing shared with
  | nil => cases hmem
  | cons call rest ih =>
    have hnumber := shared.generation_call_eq_or call
    rw [given] at hmem
    split_ifs at hmem with hone
    · rcases List.mem_cons.mp hmem with rfl | hmem
      · have hne := hone.2
        omega
      · have hlt := ih hmem
        omega
    · have hlt := ih hmem
      omega

theorem pairwise_given (identity : Identity) (table : ShardTable) (calls : List Call) :
    (given identity table calls).Pairwise (· < ·) := by
  induction calls generalizing table with
  | nil => exact List.Pairwise.nil
  | cons call rest ih =>
    rw [given]
    split_ifs
    · exact List.Pairwise.cons (fun _ hmem => lt_of_mem_given hmem) (ih _)
    · exact ih _

/-- Increasing numbers can be counted off, and all others put behind them. -/
theorem exists_counting {numbers : List Nat} (hlt : numbers.Pairwise (· < ·)) :
    ∃ rename : Nat → Nat, Function.Injective rename ∧
      StrictMonoOn rename {number | number ∈ numbers} ∧
      numbers.map rename = List.range' 1 numbers.length := by
  have hnodup : numbers.Nodup := hlt.imp fun h => Nat.ne_of_lt h
  let rename (number : Nat) : Nat :=
    if number ∈ numbers then numbers.idxOf number + 1 else numbers.length + 1 + number
  have hcounted : ∀ number ∈ numbers, rename number = numbers.idxOf number + 1 :=
    fun number hmem => if_pos hmem
  have hothers : ∀ number, number ∉ numbers → rename number = numbers.length + 1 + number :=
    fun number hnot => if_neg hnot
  refine ⟨rename, ?_, ?_, ?_⟩
  · intro left right hsame
    by_cases hleft : left ∈ numbers <;> by_cases hright : right ∈ numbers
    · rw [hcounted left hleft, hcounted right hright] at hsame
      exact (List.idxOf_inj hleft).mp (Nat.succ_injective hsame)
    · rw [hcounted left hleft, hothers right hright] at hsame
      have hbound := List.idxOf_lt_length_of_mem hleft
      omega
    · rw [hothers left hleft, hcounted right hright] at hsame
      have hbound := List.idxOf_lt_length_of_mem hright
      omega
    · rw [hothers left hleft, hothers right hright] at hsame
      omega
  · intro left hleft right hright hless
    rw [hcounted left hleft, hcounted right hright]
    have hleftBound := List.idxOf_lt_length_of_mem hleft
    have hrightBound := List.idxOf_lt_length_of_mem hright
    by_contra hle
    rcases Nat.lt_or_ge (numbers.idxOf right) (numbers.idxOf left) with hbefore | hafter
    · have hmore := List.pairwise_iff_getElem.mp hlt _ _ hrightBound hleftBound hbefore
      rw [List.getElem_idxOf, List.getElem_idxOf] at hmore
      omega
    · have hsame := (List.idxOf_inj hleft).mp (by omega : numbers.idxOf left = numbers.idxOf right)
      omega
  · refine List.ext_getElem (by simp) fun index hmap hrange => ?_
    have hbound : index < numbers.length := by simpa using hmap
    rw [List.getElem_map, hcounted _ (List.getElem_mem hbound), hnodup.idxOf_getElem index hbound,
      List.getElem_range']
    omega

/-- **Sensors do not interfere.** -/
theorem trace_alone (timeout : Time) (calls : List Call) (identity : Identity) :
    ∃ rename : Nat → Nat, Function.Injective rename ∧
      StrictMonoOn rename {generation | generation ∈ given identity (make timeout) calls} ∧
      let own := (calls.filter fun call => call.identity = identity).map (Call.rename rename)
      (((make timeout).trace calls).filter fun step => step.1.identity = identity).map
            (fun step => (step.1.rename rename, step.2.rename rename)) =
          (make timeout).trace own ∧
        ((make timeout).afterCalls own).assembly? identity =
          (((make timeout).afterCalls calls).assembly? identity).map
            (Assembly.rename rename) := by
  obtain ⟨rename, hinjective, hmono, hgiven⟩ :=
    exists_counting (pairwise_given identity (make timeout) calls)
  have hstart : Alone rename identity (make timeout) (make timeout) := ⟨rfl, rfl⟩
  obtain ⟨htrace, hfinal⟩ := hstart.run hinjective calls hgiven
  exact ⟨rename, hinjective, hmono, htrace, hfinal.assembly_eq⟩

end ShardTable

end SensorGateway
