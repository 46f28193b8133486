import SensorGateway.Proofs.Shard.Piece

/-!
# Shards on the wire

Cutting a payload gives the run of bytes at every multiple of the piece length that lies in front of
its end. So the number of pieces is the quotient of the lengths, rounded up, and only the last piece
can be short. In the other direction, a byte string begins with a piece if and only if it has the
four bytes of the header and the data that they announce (`Truncated`), and reading loses only the
two bits of the first byte that are left to acknowledgements (`wire_exact`).
-/

namespace SensorGateway

namespace Bytes

theorem toNatLE_pair (low high : UInt8) : toNatLE [low, high] = low.toNat + 256 * high.toNat := by
  simp [toNatLE]

theorem toNatBE_pair (high low : UInt8) : toNatBE [high, low] = low.toNat + 256 * high.toNat :=
  toNatLE_pair low high

end Bytes

namespace ShardWord

/-- The numbers in the two bytes of a word; the high bits of the first byte are left out. -/
theorem ofNat_bytes (high low : UInt8) :
    ofNat (low.toNat + 256 * high.toNat) =
      ⟨high.toNat % 64, low.toNat % 128, low.toNat / 128 == 1⟩ := by
  have hlow := low.toNat_lt
  rw [ofNat, mk.injEq, Bool.eq_iff_iff, beq_iff_eq, beq_iff_eq]
  omega

theorem ofNatBE_toNat (high low : UInt8) :
    Bytes.ofNatBE 2 (toNat ⟨high.toNat % 64, low.toNat % 128, low.toNat / 128 == 1⟩) =
      [high % 64, low] := by
  have hnumber : toNat ⟨high.toNat % 64, low.toNat % 128, low.toNat / 128 == 1⟩ =
      Bytes.toNatBE [high % 64, low] := by
    have hlow := low.toNat_lt
    simp only [toNat, Bytes.toNatBE_pair, beq_iff_eq, UInt8.toNat_mod]
    split_ifs <;> simp <;> omega
  rw [hnumber]
  exact Bytes.ofNatBE_toNatBE [high % 64, low]

end ShardWord

namespace ShardPiece

variable {shard maximum : Nat} {payload : Bytes} {piece : ShardPiece} {pieces : List ShardPiece}

/-! ### Where the cuts are -/

/-- Only the last piece can be shorter than the piece length, and none is empty unless there is
nothing to carry. -/
structure EvenlyCut (maximum : Nat) (payload : Bytes) (pieces : List ShardPiece) : Prop where
  full : ∀ (number : Nat) (piece : ShardPiece), pieces[number]? = some piece →
    number + 1 < pieces.length → piece.data.length = max maximum 1
  le : ∀ piece ∈ pieces, piece.data.length ≤ max maximum 1
  ne_nil : payload ≠ [] → ∀ piece ∈ pieces, piece.data ≠ []

/-- The runs of bytes that a payload is cut into. -/
def runs (payload : Bytes) (maximum : Nat) : List Bytes :=
  if payload.isEmpty then [[]] else Bytes.chunks maximum payload

theorem split_eq (shard : Nat) (payload : Bytes) (maximum : Nat) :
    split shard payload maximum =
      if maximumPieces < payload.length ⌈/⌉ max maximum 1 then
        .error (.tooManyPieces (payload.length ⌈/⌉ max maximum 1))
      else .ok (numbered shard 0 (runs payload maximum)) := by
  cases payload with
  | nil =>
    rw [List.length_nil, zero_ceilDiv]
    rfl
  | cons first rest =>
    rw [← Bytes.length_chunks]
    rfl

theorem getElem?_runs {number : Nat}
    (hpiece : (numbered shard 0 (runs payload maximum))[number]? = some piece) :
    (runs payload maximum)[number]? = some piece.data := by
  rw [← map_data_numbered shard 0 (runs payload maximum), List.getElem?_map, hpiece]
  rfl

theorem evenlyCut_numbered (shard : Nat) (payload : Bytes) (maximum : Nat) :
    EvenlyCut maximum payload (numbered shard 0 (runs payload maximum)) := by
  cases payload with
  | nil =>
    constructor
    case full => exact fun number _ _ hlt => absurd (Nat.lt_of_succ_lt_succ hlt) number.not_lt_zero
    case le =>
      intro piece hmem
      rw [List.mem_singleton.mp hmem]
      exact Nat.zero_le _
    case ne_nil => exact fun hne => absurd rfl hne
  | cons first rest =>
    constructor
    case full =>
      intro number piece hpiece hlt
      rw [length_numbered] at hlt
      have hfits := Bytes.lt_length_chunks_iff.mp hlt
      rw [Bytes.length_of_getElem?_chunks (getElem?_runs hpiece)]
      rw [Nat.succ_mul] at hfits
      omega
    case le =>
      intro piece hmem
      obtain ⟨number, hpiece⟩ := List.mem_iff_getElem?.mp hmem
      rw [Bytes.length_of_getElem?_chunks (getElem?_runs hpiece)]
      exact Nat.min_le_left _ _
    case ne_nil =>
      intro _ piece hmem
      obtain ⟨number, hpiece⟩ := List.mem_iff_getElem?.mp hmem
      have hrun := getElem?_runs hpiece
      have hbegins := Bytes.lt_length_chunks_iff.mp (List.getElem?_eq_some_iff.mp hrun).1
      refine List.ne_nil_of_length_pos ?_
      rw [Bytes.length_of_getElem?_chunks hrun]
      omega

/-! ### What begins with a piece -/

/-- The byte string ends before its first piece does, and the cause that says so. -/
inductive Truncated : Bytes → PieceError → Prop
  | header (payload : Bytes) (hshort : payload.length < 4) :
      Truncated payload (.shortHeader payload.length)
  | data (high low first second : UInt8) (rest : Bytes)
      (hshort : rest.length < first.toNat + 256 * second.toNat) :
      Truncated (high :: low :: first :: second :: rest)
        (.shortData (first.toNat + 256 * second.toNat) rest.length)

/-- The bytes without the two high bits of the first one. -/
def unacknowledged : Bytes → Bytes
  | [] => []
  | high :: rest => high % 64 :: rest

theorem exists_header (hlong : 4 ≤ payload.length) :
    ∃ high low first second rest, payload = high :: low :: first :: second :: rest := by
  rcases payload with - | ⟨high, - | ⟨low, - | ⟨first, - | ⟨second, rest⟩⟩⟩⟩
  all_goals simp at hlong
  exact ⟨high, low, first, second, rest, rfl⟩

theorem parse_cons (high low first second : UInt8) (rest : Bytes) :
    parse (high :: low :: first :: second :: rest) =
      if rest.length < first.toNat + 256 * second.toNat then
        .error (.shortData (first.toNat + 256 * second.toNat) rest.length)
      else
        .ok
          ⟨high.toNat % 64, low.toNat % 128, low.toNat / 128 == 1,
            rest.take (first.toNat + 256 * second.toNat)⟩ := by
  have hlong : ¬ (high :: low :: first :: second :: rest).length < 4 := by simp
  simp only [parse, if_neg hlong, List.take_succ_cons, List.take_zero, List.drop_succ_cons,
    List.drop_zero, Bytes.toNatBE_pair, Bytes.toNatLE_pair, ShardWord.ofNat_bytes]

theorem parse_eq_error_iff {cause : PieceError} :
    parse payload = .error cause ↔ Truncated payload cause := by
  rcases Nat.lt_or_ge payload.length 4 with hshort | hlong
  · rw [parse, if_pos hshort, Except.error.injEq]
    constructor
    · rintro rfl
      exact .header payload hshort
    · intro htruncated
      cases htruncated with
      | header => rfl
      | data =>
        simp only [List.length_cons] at hshort
        omega
  · obtain ⟨high, low, first, second, rest, rfl⟩ := exists_header hlong
    rw [parse_cons]
    constructor
    · intro herror
      split_ifs at herror with hshort
      cases herror
      exact .data high low first second rest hshort
    · intro htruncated
      cases htruncated with
      | header _ hshort =>
        simp only [List.length_cons] at hshort
        omega
      | data _ _ _ _ _ hshort => exact if_pos hshort

theorem encode_of_parse (hparse : parse payload = .ok piece) :
    piece.encode = .ok (unacknowledged (payload.take (4 + piece.data.length))) := by
  obtain ⟨hlong, _, _⟩ := parse_eq_ok_iff.mp hparse
  have hfits := length_le_of_parse hparse
  obtain ⟨high, low, first, second, rest, rfl⟩ := exists_header hlong
  rw [parse_cons] at hparse
  split_ifs at hparse with hshort
  cases hparse
  have hcount : (rest.take (first.toNat + 256 * second.toNat)).length =
      first.toNat + 256 * second.toNat := List.length_take_of_le (Nat.not_lt.mp hshort)
  have hsize : Bytes.ofNatLE 2 (first.toNat + 256 * second.toNat) = [first, second] := by
    rw [← Bytes.toNatLE_pair]
    exact Bytes.ofNatLE_toNatLE [first, second]
  rw [encode, if_neg (Nat.not_lt.mpr hfits)]
  simp only [hcount, ShardWord.ofNatBE_toNat, hsize]
  rw [Nat.add_comm 4]
  rfl

/-- **Shards on the wire.** A payload is cut evenly into numbered pieces that are read back from
their bytes, unless there are more of them than can be numbered; and a byte string that is not
truncated begins with the bytes of a piece, the two bits of acknowledgements apart. -/
theorem wire_exact :
    (∀ (shard : Nat) (payload : Bytes) (maximum : Nat),
      let count := payload.length ⌈/⌉ max maximum 1
      (∀ failure, split shard payload maximum = .error failure ↔
        maximumPieces < count ∧ failure = .tooManyPieces count) ∧
      (count ≤ maximumPieces → ∃ pieces, split shard payload maximum = .ok pieces ∧
        WholeShard shard payload pieces ∧ EvenlyCut maximum payload pieces ∧
          (maximum ≤ maximumLength → ∀ piece ∈ pieces, ∃ bytes, piece.encode = .ok bytes ∧
            ∀ suffix, parse (bytes ++ suffix) = .ok piece))) ∧
    ∀ payload : Bytes,
      (∀ cause, parse payload = .error cause ↔ Truncated payload cause) ∧
      ∀ piece, parse payload = .ok piece →
        piece.encode = .ok (unacknowledged (payload.take (4 + piece.data.length))) ∧
          peek payload = (piece.shard, piece.piece) := by
  constructor
  · intro shard payload maximum count
    rcases Nat.lt_or_ge maximumPieces count with hmany | hfew
    · have hsplit := split_eq shard payload maximum
      rw [if_pos hmany] at hsplit
      refine ⟨fun failure => ?_, fun hfew => absurd hmany (Nat.not_lt.mpr hfew)⟩
      rw [hsplit, Except.error.injEq, and_iff_right hmany, eq_comm]
    · have hsplit := split_eq shard payload maximum
      rw [if_neg (Nat.not_lt.mpr hfew)] at hsplit
      have hwhole := wholeShard_of_split hsplit
      refine ⟨fun failure => ?_, fun _ => ⟨_, hsplit, hwhole, evenlyCut_numbered .., ?_⟩⟩
      · simp [hsplit, Nat.not_lt.mpr hfew]
      · intro hmaximum piece hmem
        obtain ⟨bytes, hencode⟩ := exists_encode_of_split hsplit hmaximum hmem
        obtain ⟨number, hnumber⟩ := List.mem_iff_getElem?.mp hmem
        have hshard : piece.shard < 64 := hwhole.shard_eq piece hmem ▸ Nat.mod_lt _ (by decide)
        have hpiece : piece.piece < 128 := by
          rw [hwhole.piece_eq number piece hnumber]
          exact Nat.lt_of_lt_of_le (List.getElem?_eq_some_iff.mp hnumber).1 hwhole.length_le
        exact ⟨bytes, hencode, parse_encode hshard hpiece hencode⟩
  · intro payload
    exact ⟨fun cause => parse_eq_error_iff,
      fun piece hparse => ⟨encode_of_parse hparse, peek_of_parse hparse⟩⟩

/-- A shard with a short last piece, one byte too much for a shard of pieces of one byte, and a
piece with both bits of acknowledgements set and a byte behind it. -/
theorem wire_exact_shortLastPiece :
    (∃ pieces, split 73 [1, 2, 3, 4, 5] 2 = .ok pieces ∧
      WholeShard 73 [1, 2, 3, 4, 5] pieces ∧ EvenlyCut 2 [1, 2, 3, 4, 5] pieces ∧
        ∀ piece ∈ pieces, ∃ bytes, piece.encode = .ok bytes ∧
          ∀ suffix, parse (bytes ++ suffix) = .ok piece) ∧
      split 1 (List.replicate 129 0x55) 1 = .error (.tooManyPieces 129) ∧
      encode ⟨5, 3, true, [0xAA, 0xBB]⟩ = .ok [0x05, 0x83, 0x02, 0x00, 0xAA, 0xBB] ∧
      peek [0xC5, 0x83, 0x02, 0x00, 0xAA, 0xBB, 0xFF] = (5, 3) := by
  obtain ⟨hsplit, hparse⟩ := wire_exact
  obtain ⟨pieces, hpieces, hwhole, heven, hread⟩ :=
    (hsplit 73 [1, 2, 3, 4, 5] 2).2 (by decide)
  have hcount : (List.replicate 129 (0x55 : UInt8)).length ⌈/⌉ max 1 1 = 129 := by
    rw [List.length_replicate]
    rfl
  have hmany := ((hsplit 1 (List.replicate 129 0x55) 1).1 (.tooManyPieces 129)).mpr
  rw [hcount] at hmany
  obtain ⟨hencode, hpeek⟩ := (hparse [0xC5, 0x83, 0x02, 0x00, 0xAA, 0xBB, 0xFF]).2
    ⟨5, 3, true, [0xAA, 0xBB]⟩ rfl
  exact ⟨⟨pieces, hpieces, hwhole, heven, hread (by decide)⟩, hmany ⟨by decide, rfl⟩, hencode,
    hpeek⟩

end ShardPiece

end SensorGateway
