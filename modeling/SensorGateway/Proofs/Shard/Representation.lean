import SensorGateway.Proofs.Shard.Capacity

/-!
# What every reassembly of a table is like

`WellFormed` bounds all numbers of a reassembly and says what it has appended. It holds after any
calls whatever, but a step cannot keep it on its own: why the expected number never passes `128` is
only seen from where the pieces come from. So the steps keep `Assembly.Kept`, which ties a
reassembly to the pieces it has accepted, and the bounds follow.

The definitions of the table count without a limit, merge as often as pieces wait, and look a
reassembly up once. A gateway counts in single bytes, merges until nothing follows, and looks again
for what it has just found. The checked steps do the same and stop where that could go wrong;
`representation` says that they never stop.
-/

namespace SensorGateway

namespace Assembly

variable {assembly : Assembly} {accepted : List ShardPiece} {piece : ShardPiece}

structure WellFormed (assembly : Assembly) (accepted : List ShardPiece) : Prop where
  shard_lt : assembly.shard < 64
  expected_pos : 1 ≤ assembly.expected
  expected_le : assembly.expected ≤ 128
  lastPiece_le : assembly.lastPiece ≤ 127
  early_between : ∀ entry ∈ assembly.early.entries,
    assembly.expected < entry.1 ∧ entry.1 ≤ 127
  final_between : ∀ last, assembly.final = some last → assembly.expected ≤ last ∧ last ≤ 127
  joins : Joins accepted assembly.expected assembly.accumulated

/-- A reassembly that is under way, and the pieces it has accepted. -/
structure Kept (assembly : Assembly) (accepted : List ShardPiece) : Prop where
  backed : assembly.Backed accepted
  shard_lt : assembly.shard < 64
  expected_pos : 1 ≤ assembly.expected
  lastPiece_lt : assembly.lastPiece < ShardPiece.maximumPieces
  generation_pos : 1 ≤ assembly.generation
  incomplete : assembly.isComplete = false

theorem Kept.wellFormed (h : assembly.Kept accepted) : assembly.WellFormed accepted where
  shard_lt := h.shard_lt
  expected_pos := h.expected_pos
  expected_le := h.backed.expected_le
  lastPiece_le := Nat.le_of_lt_succ h.lastPiece_lt
  early_between := by
    intro entry hmem
    obtain ⟨hle, hlt, _⟩ := h.backed.waiting hmem
    -- the expected piece does not wait
    have hne : entry.1 ≠ assembly.expected := by
      intro heq
      have hget := h.backed.unique.get?_eq_some_iff.mpr hmem
      rw [heq, h.backed.accounted.settled] at hget
      cases hget
    exact ⟨by omega, Nat.le_of_lt_succ hlt⟩
  final_between := by
    intro last hlast
    obtain ⟨piece, hmem, _, rfl⟩ := h.backed.accounted.marked last hlast
    refine ⟨?_, Nat.le_of_lt_succ (h.backed.piece_lt piece hmem)⟩
    by_contra hlow
    have hcomplete := isComplete_eq_true_iff.mpr ⟨piece.piece, hlast, Nat.not_le.mp hlow⟩
    rw [h.incomplete] at hcomplete
    cases hcomplete
  joins := h.backed.accounted.holds.joins

theorem kept_start {generation : Nat} (hgeneration : 1 ≤ generation) (header : Header)
    {payload : Bytes} (hparse : ShardPiece.parse payload = .ok piece) (hfirst : piece.piece = 0)
    (deadline : Time) (hincomplete : (start generation header piece deadline).isComplete = false) :
    (start generation header piece deadline).Kept [piece] where
  backed := backed_start generation header hparse hfirst deadline
  shard_lt := (start_shard ..).symm ▸ ShardPiece.shard_lt_of_parse hparse
  expected_pos := expected_start_pos generation header piece deadline
  lastPiece_lt := (start_lastPiece ..).symm ▸ ShardPiece.piece_lt_of_parse hparse
  generation_pos := (start_generation ..).symm ▸ hgeneration
  incomplete := hincomplete

theorem expected_le_accept (assembly : Assembly) (piece : ShardPiece) (deadline : Time) :
    assembly.expected ≤ (assembly.accept piece deadline).expected := by
  rcases Nat.lt_trichotomy piece.piece assembly.expected with hlow | hturn | hhigh
  · rw [assembly.accept_of_lt deadline hlow]
  · rw [assembly.accept_of_eq deadline hturn]
    exact Nat.le_of_lt (assembly.lt_expected_append piece.data)
  · rw [assembly.accept_of_gt deadline hhigh]

theorem Kept.accept (h : assembly.Kept accepted) {payload : Bytes}
    (hparse : ShardPiece.parse payload = .ok piece) (hshard : piece.shard = assembly.shard)
    (deadline : Time) (hincomplete : (assembly.accept piece deadline).isComplete = false) :
    (assembly.accept piece deadline).Kept (accepted ++ [piece]) where
  backed := h.backed.accept hparse hshard deadline
  shard_lt := (accept_shard ..).symm ▸ h.shard_lt
  expected_pos := Nat.le_trans h.expected_pos (assembly.expected_le_accept piece deadline)
  lastPiece_lt := (accept_lastPiece ..).symm ▸ ShardPiece.piece_lt_of_parse hparse
  generation_pos := (accept_generation ..).symm ▸ h.generation_pos
  incomplete := hincomplete

end Assembly

namespace ShardTable

variable {table : ShardTable} {accepted : Identity → List ShardPiece} {timeout : Time}

structure WellFormed (table : ShardTable) (accepted : Identity → List ShardPiece) : Prop where
  unique : table.assemblies.Unique
  assembly : ∀ entry ∈ table.assemblies.entries, entry.2.WellFormed (accepted entry.1)
  generation_between : ∀ entry ∈ table.assemblies.entries,
    1 ≤ entry.2.generation ∧ entry.2.generation ≤ table.generation
  generation_own : ∀ entry ∈ table.assemblies.entries, ∀ other ∈ table.assemblies.entries,
    entry.2.generation = other.2.generation → entry = other

def Kept (table : ShardTable) (accepted : Identity → List ShardPiece) : Prop :=
  ∀ identity assembly, table.assembly? identity = some assembly →
    assembly.Kept (accepted identity)

/-! ### Any calls -/

theorem Kept.process (h : table.Kept accepted) (frame : Frame) (now : Time) :
    (table.process frame now).1.Kept (table.record accepted frame now) := by
  intro identity assembly hfound
  by_cases hne : identity ≠ frame.identity
  · rw [assembly?_process_of_ne table frame now hne] at hfound
    rw [record_of_ne hne]
    exact h identity assembly hfound
  obtain rfl : identity = frame.identity := by simpa using hne
  have hcases := table.processed frame now
  cases hprocess : table.process frame now with
  | mk after outcome =>
    rw [hprocess] at hcases hfound
    cases hcases with
    | whole hwhole =>
      rw [record_of_not_admits (by simp [hwhole])]
      exact h _ assembly hfound
    | refused hpiece hrefused =>
      rw [record_of_not_admits fun _ => hrefused]
      exact h _ assembly hfound
    | opened piece hpiece hparse hopening hincomplete =>
      rw [assembly?_insert_self, Option.some.injEq] at hfound
      rw [record_of_isOpening hpiece hparse hopening, ← hfound]
      exact Assembly.kept_start (Nat.le_add_left 1 _) _ hparse hopening.1 _ hincomplete
    | joined piece previous hpiece hparse hcollecting hend hincomplete =>
      rw [assembly?_insert_self, Option.some.injEq] at hfound
      rw [record_of_isCollecting hpiece hparse hcollecting hend, ← hfound]
      exact (h _ previous hcollecting.1).accept hparse hcollecting.2.symm _ hincomplete
    | openedWhole => simp at hfound
    | completed => simp at hfound

theorem Recorded.kept (h : Recorded timeout table accepted) : table.Kept accepted := by
  induction h with
  | make => exact fun _ _ hfound => nomatch hfound
  | process _ frame now ih => exact ih.process frame now
  | expire _ identity generation now ih =>
    exact fun other assembly hfound => ih other assembly (of_assembly?_expire hfound)
  | drain => exact fun _ _ hfound => nomatch hfound

theorem Recorded.ordered (h : Recorded timeout table accepted) : table.Ordered := by
  induction h with
  | make => exact ⟨Keyed.unique_empty, List.nodup_nil, fun _ hmem => nomatch hmem⟩
  | process _ frame now ih => exact (ih.follows_process frame now).ordered
  | expire _ identity generation now ih =>
    exact (ih.follows_expire identity generation now).ordered
  | drain => exact (follows_drain _).ordered

theorem Recorded.wellFormed (h : Recorded timeout table accepted) :
    table.WellFormed accepted := by
  have hordered := h.ordered
  have hkept : ∀ entry ∈ table.assemblies.entries, entry.2.Kept (accepted entry.1) :=
    fun entry hmem => h.kept entry.1 entry.2 (hordered.unique.get?_eq_some_iff.mpr hmem)
  constructor
  case unique => exact hordered.unique
  case assembly => exact fun entry hmem => (hkept entry hmem).wellFormed
  case generation_between =>
    intro entry hmem
    exact ⟨(hkept entry hmem).generation_pos, hordered.le _ (List.mem_map_of_mem hmem)⟩
  case generation_own =>
    exact fun entry hmem other hother => List.inj_on_of_nodup_map hordered.nodup hmem hother

end ShardTable

/-! ### Checked steps -/

/-- Why a checked step stops. -/
inductive Mishap where
  /-- A number does not fit a byte. -/
  | overflow
  /-- More pieces have followed one another than there are. -/
  | endless
  /-- What has just been found is not there. -/
  | missing
deriving DecidableEq

namespace Assembly

variable {assembly : Assembly} {accepted : List ShardPiece} {piece : ShardPiece}

/-- The number after this one, in a byte. -/
def next (number : Nat) : Except Mishap Nat :=
  if number < 255 then .ok (number + 1) else .error .overflow

/-- Appends early pieces until the expected one is not among them. -/
def drawEarly : Nat → Assembly → Except Mishap Assembly
  | 0, assembly =>
    if assembly.early.contains assembly.expected then .error .endless else .ok assembly
  | rounds + 1, assembly =>
    match assembly.early.get? assembly.expected with
    | none => .ok assembly
    | some data => do
      let expected ← next assembly.expected
      drawEarly rounds
        { assembly with
          accumulated := assembly.accumulated ++ data
          early := assembly.early.erase assembly.expected
          expected }

def appendChecked (assembly : Assembly) (data : Bytes) : Except Mishap Assembly := do
  let expected ← next assembly.expected
  drawEarly ShardPiece.maximumPieces
    { assembly with accumulated := assembly.accumulated ++ data, expected }

def startChecked (generation : Nat) (header : Header) (piece : ShardPiece) (deadline : Time) :
    Except Mishap Assembly :=
  appendChecked
    { generation
      shard := piece.shard
      expected := 0
      accumulated := []
      early := Keyed.empty
      final := if piece.final then some piece.piece else none
      lastPiece := piece.piece
      paramCount := header.paramCount
      packetType := header.packetType
      deadline }
    piece.data

def acceptChecked (assembly : Assembly) (piece : ShardPiece) (deadline : Time) :
    Except Mishap Assembly :=
  if piece.piece ≠ assembly.expected then .ok (assembly.accept piece deadline)
  else do
    let appended ← assembly.appendChecked piece.data
    .ok
      { appended with
        lastPiece := piece.piece
        final := if piece.final then some piece.piece else assembly.final
        deadline }

theorem next_of_lt {number : Nat} (hlt : number < ShardPiece.maximumPieces) :
    next number = .ok (number + 1) :=
  if_pos (Nat.lt_trans hlt (by decide))

/-- There are no more rounds than pieces that wait. -/
theorem drawEarly_eq {rounds count : Nat} (hcount : assembly.early.size ≤ count)
    (hrounds : count ≤ rounds)
    (hearly : ∀ number data, assembly.early.get? number = some data →
      number < ShardPiece.maximumPieces) :
    drawEarly rounds assembly = .ok (merge count assembly) := by
  induction count generalizing rounds assembly with
  | zero =>
    have hnone := Keyed.get?_eq_none_of_size_eq_zero (Nat.le_zero.mp hcount) assembly.expected
    cases rounds with
    | zero => simp [drawEarly, merge, Keyed.contains, hnone]
    | succ rounds => simp [drawEarly, merge, hnone]
  | succ count ih =>
    obtain ⟨rounds, rfl⟩ := Nat.exists_eq_add_of_lt (Nat.lt_of_succ_le hrounds)
    rw [drawEarly, merge]
    cases hget : assembly.early.get? assembly.expected with
    | none => rfl
    | some data =>
      have hsize := Keyed.size_erase_lt hget
      dsimp only
      rw [next_of_lt (hearly _ _ hget)]
      refine ih ?_ (Nat.le_add_right _ _) fun number other hother => ?_
      · change (assembly.early.erase assembly.expected).size ≤ count
        omega
      · rw [Keyed.get?_erase] at hother
        split_ifs at hother
        exact hearly number other hother

theorem appendChecked_eq (hexpected : assembly.expected < ShardPiece.maximumPieces)
    (hsize : assembly.early.size ≤ ShardPiece.maximumPieces)
    (hearly : ∀ number data, assembly.early.get? number = some data →
      number < ShardPiece.maximumPieces) (data : Bytes) :
    assembly.appendChecked data = .ok (assembly.append data) := by
  rw [appendChecked, next_of_lt hexpected]
  exact drawEarly_eq (Nat.le_refl _) hsize hearly

theorem startChecked_eq (generation : Nat) (header : Header) (piece : ShardPiece)
    (deadline : Time) :
    startChecked generation header piece deadline =
      .ok (start generation header piece deadline) :=
  appendChecked_eq (by decide : 0 < ShardPiece.maximumPieces) (Nat.zero_le _)
    (fun _ _ hget => by cases hget) piece.data

theorem Backed.acceptChecked_eq (h : assembly.Backed accepted)
    (hpiece : piece.piece < ShardPiece.maximumPieces) (deadline : Time) :
    assembly.acceptChecked piece deadline = .ok (assembly.accept piece deadline) := by
  by_cases hturn : piece.piece = assembly.expected
  · have hearly : ∀ number data, assembly.early.get? number = some data →
        number < ShardPiece.maximumPieces :=
      fun number data hget => (h.waiting (Keyed.mem_entries_of_get? hget)).2.1
    have hsize : assembly.early.size ≤ ShardPiece.maximumPieces :=
      Nat.le_trans (Nat.le_add_left _ _) h.waiting_le
    have happend := appendChecked_eq (hturn ▸ hpiece) hsize hearly piece.data
    rw [acceptChecked, if_neg (not_not_intro hturn), happend, accept_of_eq _ _ hturn]
    rfl
  · rw [acceptChecked, if_pos hturn]

end Assembly

namespace ShardTable

variable {table : ShardTable} {accepted : Identity → List ShardPiece} {timeout : Time}

def openChecked (table : ShardTable) (frame : Frame) (piece : ShardPiece) (now : Time) :
    Except Mishap (ShardTable × PieceOutcome) := do
  let generation := table.generation + 1
  let deadline := now + table.timeout
  let assembly ← Assembly.startChecked generation frame.header piece deadline
  let ack := ShardAck.accept piece.shard piece.piece
  if assembly.isComplete then
    .ok ({ table with assemblies := table.assemblies.erase frame.identity, generation },
      ⟨ack, some (assembly.toFrame frame.identity), .cancel, some deadline⟩)
  else
    .ok ({ table with assemblies := table.assemblies.insert frame.identity assembly, generation },
      ⟨ack, none, .start generation deadline, some deadline⟩)

/-- Looks the reassembly up, puts it back after the piece, and looks it up again to take it out if
it is complete. -/
def continueChecked (table : ShardTable) (identity : Identity) (piece : ShardPiece) (now : Time) :
    Except Mishap (ShardTable × PieceOutcome) :=
  match table.assembly? identity with
  | none => .error .missing
  | some assembly =>
    if assembly.isPastEnd piece.piece then .ok (table, refusal assembly.shard piece.piece)
    else do
      let deadline := now + table.timeout
      let progress := if assembly.advancesOn piece.piece then some deadline else none
      let accepted ← assembly.acceptChecked piece deadline
      let ack := ShardAck.accept assembly.shard piece.piece
      let table := { table with assemblies := table.assemblies.insert identity accepted }
      if !accepted.isComplete then .ok (table, ⟨ack, none, .keep, progress⟩)
      else
        match table.assembly? identity with
        | none => .error .missing
        | some complete =>
          .ok ({ table with assemblies := table.assemblies.erase identity },
            ⟨ack, some (complete.toFrame identity), .cancel, progress⟩)

def processChecked (table : ShardTable) (frame : Frame) (now : Time) :
    Except Mishap (ShardTable × PieceOutcome) :=
  if !frame.fragmented then .ok (table, ⟨.accept 0 0, some frame, .keep, none⟩)
  else
    match ShardPiece.parse frame.payload with
    | .error _ =>
      let (shard, piece) := ShardPiece.peek frame.payload
      .ok (table, refusal shard piece)
    | .ok piece =>
      if (table.assembly? frame.identity).any (·.shard == piece.shard) then
        table.continueChecked frame.identity piece now
      else if piece.isStart then table.openChecked frame piece now
      else .ok (table, refusal piece.shard piece.piece)

/-- Looks the reassembly up again to take it out if its time is over. -/
def expireChecked (table : ShardTable) (identity : Identity) (generation : Nat) (now : Time) :
    Except Mishap (ShardTable × Expiry) :=
  match table.assembly? identity with
  | none => .ok (table, .gone)
  | some assembly =>
    if assembly.generation ≠ generation then .ok (table, .gone)
    else if now < assembly.deadline then .ok (table, .pending assembly.deadline)
    else
      match table.assembly? identity with
      | none => .error .missing
      | some late =>
        .ok ({ table with assemblies := table.assemblies.erase identity },
          .evicted (.reject late.shard late.lastPiece))

theorem openChecked_eq (table : ShardTable) (frame : Frame) (piece : ShardPiece) (now : Time) :
    table.openChecked frame piece now = .ok (table.openShard frame piece now) := by
  simp only [openChecked, openShard, Assembly.startChecked_eq]
  split_ifs with hcomplete
  · exact if_pos hcomplete
  · exact if_neg hcomplete

theorem Kept.continueChecked_eq (h : table.Kept accepted) {identity : Identity}
    {assembly : Assembly} {piece : ShardPiece} (hpiece : piece.piece < ShardPiece.maximumPieces)
    (hfound : table.assembly? identity = some assembly) (now : Time) :
    table.continueChecked identity piece now =
      .ok (table.continueShard identity assembly piece now) := by
  have haccept := (h identity assembly hfound).backed.acceptChecked_eq hpiece
  simp only [continueChecked, hfound, continueShard]
  by_cases hend : assembly.isPastEnd piece.piece = true
  · rw [if_pos hend, if_pos hend]
  · rw [if_neg hend, if_neg hend, haccept]
    cases hcomplete : (assembly.accept piece (now + table.timeout)).isComplete with
    | false => simp [hcomplete, bind, Except.bind]
    | true => simp [hcomplete, bind, Except.bind, Keyed.erase_insert]

theorem Kept.processChecked_eq (h : table.Kept accepted) (frame : Frame) (now : Time) :
    table.processChecked frame now = .ok (table.process frame now) := by
  unfold processChecked ShardTable.process
  split_ifs with hwhole
  · rfl
  cases hparse : ShardPiece.parse frame.payload with
  | error cause => rfl
  | ok piece =>
    dsimp only
    by_cases hcollecting : ∃ assembly, table.IsCollecting frame.identity piece assembly
    · obtain ⟨assembly, hcollecting⟩ := hcollecting
      have hany : (table.assembly? frame.identity).any (·.shard == piece.shard) = true := by
        simp [hcollecting.1, hcollecting.2]
      rw [if_pos hany, hcollecting.filter_eq]
      exact h.continueChecked_eq (ShardPiece.piece_lt_of_parse hparse) hcollecting.1 now
    · have hother : ∀ assembly, table.assembly? frame.identity = some assembly →
          assembly.shard ≠ piece.shard :=
        fun assembly hfound hshard => hcollecting ⟨assembly, hfound, hshard⟩
      have hany : ¬ (table.assembly? frame.identity).any (·.shard == piece.shard) = true := by
        cases hfound : table.assembly? frame.identity with
        | none => simp
        | some assembly => simpa using hother assembly hfound
      rw [if_neg hany, filter_assembly?_eq_none table hother, openChecked_eq]
      split_ifs
      · rfl
      · rfl

theorem expireChecked_eq (table : ShardTable) (identity : Identity) (generation : Nat)
    (now : Time) :
    table.expireChecked identity generation now = .ok (table.expire identity generation now) := by
  unfold expireChecked expire
  cases table.assembly? identity with
  | none => rfl
  | some assembly =>
    dsimp only
    split_ifs
    · rfl
    · rfl
    · rfl

/-- **Every table that calls lead to is well formed**, and the checked steps agree on it with those
that check nothing. -/
theorem representation (h : Recorded timeout table accepted) :
    table.WellFormed accepted ∧
      (∀ frame now, table.processChecked frame now = .ok (table.process frame now)) ∧
      ∀ identity generation now,
        table.expireChecked identity generation now =
          .ok (table.expire identity generation now) :=
  ⟨h.wellFormed, h.kept.processChecked_eq, table.expireChecked_eq⟩

/-- The last piece there can be waits behind the first one. -/
theorem representation_farEnd :
    let first := overtakingFrame [1, 0, 1, 0, 0]
    let last := overtakingFrame [1, 0xFF, 1, 0, 9]
    let opened := ((ShardTable.make 20000).process first 0).1
    let table := (opened.process last 0).1
    let accepted := opened.record ((ShardTable.make 20000).record (fun _ => []) first 0) last 0
    (table.assembly? first.identity).map
        (fun assembly => (assembly.expected, assembly.early.entries, assembly.final)) =
          some (1, [(127, [9])], some 127) ∧
      table.WellFormed accepted ∧
      (∀ frame now, table.processChecked frame now = .ok (table.process frame now)) ∧
      ∀ identity generation now,
        table.expireChecked identity generation now =
          .ok (table.expire identity generation now) := by
  intro first last opened table accepted
  have hrecorded : Recorded 20000 table accepted := (Recorded.make.process first 0).process last 0
  exact ⟨by decide, representation hrecorded⟩

end ShardTable

end SensorGateway
