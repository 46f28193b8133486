import SensorGateway.Proofs.Shard.Table
import SensorGateway.Shard.Engine

/-!
# What the engine answers, whatever the time

The time goes into a reassembly as its deadline and nowhere else, and nobody but a timer looks at a
deadline. So two engines that agree but for deadlines answer a frame alike, whenever each of them
gets it, and agree but for deadlines afterwards (`SameButDates.submit`). What an engine answers to
frames is therefore what it answers to them at moment zero, as long as no timer takes a reassembly
away (`exchanges`).
-/

namespace SensorGateway

namespace Assembly

def undated (assembly : Assembly) : Assembly :=
  { assembly with deadline := 0 }

variable {left right : Assembly}

theorem merge_undated (count : Nat) (assembly : Assembly) :
    (merge count assembly).undated = merge count assembly.undated := by
  induction count generalizing assembly with
  | zero => rfl
  | succ count ih =>
    have hearly : assembly.undated.early.get? assembly.undated.expected =
        assembly.early.get? assembly.expected := rfl
    rw [merge, merge, hearly]
    cases assembly.early.get? assembly.expected with
    | none => rfl
    | some body => exact ih _

theorem append_undated (assembly : Assembly) (body : Bytes) :
    (assembly.append body).undated = assembly.undated.append body :=
  merge_undated _ _

theorem start_undated (generation : Nat) (header : Header) (piece : ShardPiece)
    (deadline later : Time) :
    (start generation header piece deadline).undated =
      (start generation header piece later).undated := by
  rw [start, start, append_undated, append_undated]
  rfl

theorem accept_undated (h : left.undated = right.undated) (piece : ShardPiece)
    (deadline later : Time) :
    (left.accept piece deadline).undated = (right.accept piece later).undated := by
  have hexpected : left.expected = right.expected := (congrArg expected h :)
  have hearly : left.early = right.early := (congrArg early h :)
  have happend : (left.append piece.data).undated = (right.append piece.data).undated := by
    rw [append_undated, append_undated, h]
  simp only [accept, hexpected, hearly]
  split_ifs
  all_goals
    simp only [undated, mk.injEq] at h happend ⊢
    simp [h, happend]

theorem isComplete_of_undated (h : left.undated = right.undated) :
    left.isComplete = right.isComplete :=
  (congrArg isComplete h :)

theorem toFrame_of_undated (h : left.undated = right.undated) (identity : Identity) :
    left.toFrame identity = right.toFrame identity :=
  (congrArg (toFrame · identity) h :)

end Assembly

namespace ShardTable

/-- The tables agree but for the deadlines. -/
structure SameButDates (left right : ShardTable) : Prop where
  generation_eq : left.generation = right.generation
  assemblies_eq : left.assemblies.mapValues Assembly.undated =
    right.assemblies.mapValues Assembly.undated

structure SameAnswer (left right : ShardTable × PieceOutcome) : Prop where
  table : SameButDates left.1 right.1
  ack_eq : left.2.ack = right.2.ack
  completed_eq : left.2.completed = right.2.completed

variable {left right : ShardTable} {assembly other : Assembly}

theorem SameButDates.assembly?_eq (h : SameButDates left right) (identity : Identity) :
    (left.assembly? identity).map Assembly.undated =
      (right.assembly? identity).map Assembly.undated := by
  rw [assembly?, assembly?, ← Keyed.get?_mapValues, h.assemblies_eq, Keyed.get?_mapValues]

theorem SameButDates.insert (h : SameButDates left right) (identity : Identity)
    (hsame : assembly.undated = other.undated) :
    (left.assemblies.insert identity assembly).mapValues Assembly.undated =
      (right.assemblies.insert identity other).mapValues Assembly.undated := by
  rw [Keyed.mapValues_insert, Keyed.mapValues_insert, h.assemblies_eq, hsame]

theorem SameButDates.erase (h : SameButDates left right) (identity : Identity) :
    (left.assemblies.erase identity).mapValues Assembly.undated =
      (right.assemblies.erase identity).mapValues Assembly.undated := by
  rw [Keyed.mapValues_erase, Keyed.mapValues_erase, h.assemblies_eq]

theorem SameButDates.openShard (h : SameButDates left right) (frame : Frame) (piece : ShardPiece)
    (now later : Time) :
    SameAnswer (left.openShard frame piece now) (right.openShard frame piece later) := by
  have hsame := Assembly.start_undated (left.generation + 1) frame.header piece
    (now + left.timeout) (later + right.timeout)
  rw [h.generation_eq] at hsame
  simp only [ShardTable.openShard, h.generation_eq, Assembly.isComplete_of_undated hsame,
    Assembly.toFrame_of_undated hsame]
  split_ifs
  · exact ⟨⟨rfl, h.erase _⟩, rfl, rfl⟩
  · exact ⟨⟨rfl, h.insert _ hsame⟩, rfl, rfl⟩

theorem SameButDates.continueShard (h : SameButDates left right) (identity : Identity)
    (hsame : assembly.undated = other.undated) (piece : ShardPiece) (now later : Time) :
    SameAnswer (left.continueShard identity assembly piece now)
      (right.continueShard identity other piece later) := by
  have hshard : assembly.shard = other.shard := (congrArg Assembly.shard hsame :)
  have hend : assembly.isPastEnd piece.piece = other.isPastEnd piece.piece :=
    (congrArg (Assembly.isPastEnd · piece.piece) hsame :)
  have hnext := Assembly.accept_undated hsame piece (now + left.timeout) (later + right.timeout)
  simp only [ShardTable.continueShard, hshard, hend, Assembly.isComplete_of_undated hnext,
    Assembly.toFrame_of_undated hnext]
  cases other.isPastEnd piece.piece with
  | true => exact ⟨h, rfl, rfl⟩
  | false =>
    cases (other.accept piece (later + right.timeout)).isComplete with
    | true => exact ⟨⟨h.generation_eq, h.erase _⟩, rfl, rfl⟩
    | false => exact ⟨⟨h.generation_eq, h.insert _ hnext⟩, rfl, rfl⟩

theorem SameButDates.exists_isCollecting (h : SameButDates left right) {identity : Identity}
    {piece : ShardPiece} (hcollecting : left.IsCollecting identity piece assembly) :
    ∃ other, right.IsCollecting identity piece other ∧ assembly.undated = other.undated := by
  have hfound := h.assembly?_eq identity
  rw [hcollecting.1, Option.map_some, eq_comm, Option.map_eq_some_iff] at hfound
  obtain ⟨other, hother, hsame⟩ := hfound
  have hshard : other.shard = assembly.shard := (congrArg Assembly.shard hsame :)
  exact ⟨other, ⟨hother, hshard.trans hcollecting.2⟩, hsame.symm⟩

theorem SameButDates.symm (h : SameButDates left right) : SameButDates right left :=
  ⟨h.generation_eq.symm, h.assemblies_eq.symm⟩

theorem SameButDates.process (h : SameButDates left right) (frame : Frame) (now later : Time) :
    SameAnswer (left.process frame now) (right.process frame later) := by
  cases hpiece : frame.fragmented with
  | false =>
    rw [(Processed.whole hpiece : Processed left frame now _).process_eq,
      (Processed.whole hpiece : Processed right frame later _).process_eq]
    exact ⟨h, rfl, rfl⟩
  | true =>
    cases hparse : ShardPiece.parse frame.payload with
    | error cause =>
      have hnone : ∀ (table : ShardTable) (piece : ShardPiece),
          ShardPiece.parse frame.payload = .ok piece → ¬ table.Admits frame.identity piece := by
        simp [hparse]
      rw [(Processed.refused hpiece (hnone left) : Processed left frame now _).process_eq,
        (Processed.refused hpiece (hnone right) : Processed right frame later _).process_eq]
      exact ⟨h, rfl, rfl⟩
    | ok piece =>
      by_cases hcollecting : ∃ assembly, left.IsCollecting frame.identity piece assembly
      · obtain ⟨assembly, hcollecting⟩ := hcollecting
        obtain ⟨other, hother, hsame⟩ := h.exists_isCollecting hcollecting
        rw [process_of_isCollecting left now hpiece hparse hcollecting,
          process_of_isCollecting right later hpiece hparse hother]
        exact h.continueShard frame.identity hsame piece now later
      -- neither table collects the shard, so what counts is whether it begins here
      have hleft : ∀ assembly, left.assembly? frame.identity = some assembly →
          assembly.shard ≠ piece.shard :=
        fun assembly hfound hshard => hcollecting ⟨assembly, hfound, hshard⟩
      have hright : ∀ assembly, right.assembly? frame.identity = some assembly →
          assembly.shard ≠ piece.shard := by
        intro assembly hfound hshard
        obtain ⟨other, hother, _⟩ := h.symm.exists_isCollecting ⟨hfound, hshard⟩
        exact hcollecting ⟨other, hother⟩
      by_cases hstart : piece.piece = 0
      · rw [process_of_isOpening left now hpiece hparse ⟨hstart, hleft⟩,
          process_of_isOpening right later hpiece hparse ⟨hstart, hright⟩]
        exact h.openShard frame piece now later
      · have hrefused : ∀ table : ShardTable,
            (∀ assembly, table.assembly? frame.identity = some assembly →
              assembly.shard ≠ piece.shard) → ¬ table.Admits frame.identity piece := by
          rintro table hother (hopening | ⟨assembly, hfound, _⟩)
          · exact hstart hopening.1
          · exact hother assembly hfound.1 hfound.2
        rw [process_of_not_admits left now hpiece hparse (hrefused left hleft),
          process_of_not_admits right later hpiece hparse (hrefused right hright)]
        exact ⟨h, rfl, rfl⟩

end ShardTable

/-- A frame given to an engine, with what came back. -/
structure Exchange where
  frame : Frame
  ack : Option ShardAck
  result : Except Failure (Option Frame)

namespace Engine

def exchange (engine : Engine) (frame : Frame) (now : Time) : Exchange :=
  let submission := (engine.submit frame now).2
  ⟨frame, submission.ack, submission.result⟩

/-- An engine after frames that are all submitted at moment zero. -/
def submitAll (engine : Engine) (frames : List Frame) : Engine :=
  frames.foldl (fun engine frame => (engine.submit frame 0).1) engine

/-- What an engine answers to frames that are all submitted at moment zero. -/
def exchanges (engine : Engine) : List Frame → List Exchange
  | [] => []
  | frame :: rest => engine.exchange frame 0 :: (engine.submit frame 0).1.exchanges rest

theorem exchanges_append (engine : Engine) (frames more : List Frame) :
    engine.exchanges (frames ++ more) =
      engine.exchanges frames ++ (engine.submitAll frames).exchanges more := by
  induction frames generalizing engine with
  | nil => rfl
  | cons frame rest ih => exact congrArg (engine.exchange frame 0 :: ·) (ih _)

theorem submitAll_concat (engine : Engine) (frames : List Frame) (frame : Frame) :
    engine.submitAll (frames ++ [frame]) = ((engine.submitAll frames).submit frame 0).1 := by
  rw [submitAll, List.foldl_append]
  rfl

/-- The engines agree but for their timers and deadlines. -/
structure SameButDates (left right : Engine) : Prop where
  isShutDown_eq : left.isShutDown = right.isShutDown
  table : left.table.SameButDates right.table

variable {left right : Engine}

theorem SameButDates.refl (engine : Engine) : SameButDates engine engine :=
  ⟨rfl, rfl, rfl⟩

theorem SameButDates.submit (h : SameButDates left right) (frame : Frame) (now later : Time) :
    SameButDates (left.submit frame now).1 (right.submit frame later).1 ∧
      left.exchange frame now = right.exchange frame later := by
  have hprocess := h.table.process frame now later
  simp only [exchange, Engine.submit, h.isShutDown_eq]
  cases right.isShutDown with
  | true => exact ⟨h, rfl⟩
  | false =>
    refine ⟨⟨rfl, hprocess.table⟩, ?_⟩
    simp only [Bool.false_eq_true, if_false, hprocess.ack_eq, hprocess.completed_eq]

end Engine

end SensorGateway
