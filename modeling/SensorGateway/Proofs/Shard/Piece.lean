import SensorGateway.Proofs.Bytes.Chunks
import SensorGateway.Shard.Piece

/-!
# Pieces on the wire and shards cut into pieces

A piece is read back from its bytes, whatever follows them, and its numbers are bounded by the bits
they travel in. `WholeShard` says what cutting a payload gives: pieces of one shard, numbered from
zero without a gap, the end mark on the last one alone, whose data are the payload cut up.
-/

namespace SensorGateway

namespace ShardWord

theorem ofNat_toNat {word : ShardWord} (hshard : word.shard < 64) (hpiece : word.piece < 128) :
    ofNat (toNat word) = word := by
  obtain ⟨shard, piece, final⟩ := word
  have hshard : shard < 64 := hshard
  have hpiece : piece < 128 := hpiece
  cases final
  · have hnat : toNat ⟨shard, piece, false⟩ = shard * 256 + piece := by simp [toNat]; omega
    rw [hnat, ofNat, mk.injEq, beq_eq_false_iff_ne]
    omega
  · have hnat : toNat ⟨shard, piece, true⟩ = shard * 256 + 128 + piece := by simp [toNat]; omega
    rw [hnat, ofNat, mk.injEq, beq_iff_eq]
    omega

theorem toNat_lt (word : ShardWord) : toNat word < 65536 := by
  rw [toNat]
  split <;> omega

theorem shard_ofNat_lt (word : Nat) : (ofNat word).shard < 64 :=
  Nat.mod_lt _ (by decide)

theorem piece_ofNat_lt (word : Nat) : (ofNat word).piece < 128 :=
  Nat.mod_lt _ (by decide)

end ShardWord

namespace ShardPiece

/-! ### Reading a piece -/

theorem parse_eq_ok_iff {payload : Bytes} {piece : ShardPiece} :
    parse payload = .ok piece ↔
      4 ≤ payload.length ∧
        Bytes.toNatLE ((payload.drop 2).take 2) ≤ (payload.drop 4).length ∧
        piece =
          ⟨(ShardWord.ofNat (Bytes.toNatBE (payload.take 2))).shard,
            (ShardWord.ofNat (Bytes.toNatBE (payload.take 2))).piece,
            (ShardWord.ofNat (Bytes.toNatBE (payload.take 2))).final,
            (payload.drop 4).take (Bytes.toNatLE ((payload.drop 2).take 2))⟩ := by
  by_cases hhead : payload.length < 4
  · simp only [parse, if_pos hhead, reduceCtorEq, false_iff]
    omega
  · by_cases hdata : (payload.drop 4).length < Bytes.toNatLE ((payload.drop 2).take 2)
    · simp only [parse, if_neg hhead, if_pos hdata, reduceCtorEq, false_iff]
      omega
    · simp only [parse, if_neg hhead, if_neg hdata, Except.ok.injEq]
      exact ⟨fun h => ⟨by omega, by omega, h.symm⟩, fun h => h.2.2.symm⟩

theorem shard_lt_of_parse {payload : Bytes} {piece : ShardPiece}
    (hparse : parse payload = .ok piece) : piece.shard < 64 := by
  rw [(parse_eq_ok_iff.mp hparse).2.2]
  exact ShardWord.shard_ofNat_lt _

theorem piece_lt_of_parse {payload : Bytes} {piece : ShardPiece}
    (hparse : parse payload = .ok piece) : piece.piece < 128 := by
  rw [(parse_eq_ok_iff.mp hparse).2.2]
  exact ShardWord.piece_ofNat_lt _

theorem length_le_of_parse {payload : Bytes} {piece : ShardPiece}
    (hparse : parse payload = .ok piece) : piece.data.length ≤ maximumLength := by
  obtain ⟨hlong, _, hpiece⟩ := parse_eq_ok_iff.mp hparse
  have hfield : ((payload.drop 2).take 2).length = 2 := by
    rw [List.length_take, List.length_drop]
    omega
  have hlt := Bytes.toNatLE_lt ((payload.drop 2).take 2)
  rw [hfield] at hlt
  rw [hpiece]
  exact Nat.le_trans (List.length_take_le _ _) (Nat.le_of_lt_succ hlt)

theorem peek_of_parse {payload : Bytes} {piece : ShardPiece}
    (hparse : parse payload = .ok piece) : peek payload = (piece.shard, piece.piece) := by
  obtain ⟨hlength, _, hpiece⟩ := parse_eq_ok_iff.mp hparse
  match payload, hlength with
  | high :: low :: rest, _ =>
    rw [hpiece]
    rfl

theorem parse_encode {piece : ShardPiece} (hshard : piece.shard < 64) (hpiece : piece.piece < 128)
    {bytes : Bytes} (hencode : piece.encode = .ok bytes) (suffix : Bytes) :
    parse (bytes ++ suffix) = .ok piece := by
  by_cases hlong : maximumLength < piece.data.length
  · rw [encode, if_pos hlong] at hencode
    cases hencode
  rw [encode, if_neg hlong] at hencode
  cases hencode
  set word := ShardWord.toNat ⟨piece.shard, piece.piece, piece.final⟩ with hword
  set head := Bytes.ofNatBE 2 word with hhead
  set size := Bytes.ofNatLE 2 piece.data.length with hsize
  have hheadLength : head.length = 2 := Bytes.length_ofNatBE 2 word
  have hsizeLength : size.length = 2 := Bytes.length_ofNatLE 2 piece.data.length
  have hshape :
      head ++ size ++ piece.data ++ suffix = head ++ (size ++ (piece.data ++ suffix)) := by
    simp only [List.append_assoc]
  have htake : (head ++ size ++ piece.data ++ suffix).take 2 = head := by
    rw [hshape, List.take_left' hheadLength]
  have hdrop : (head ++ size ++ piece.data ++ suffix).drop 2 = size ++ (piece.data ++ suffix) := by
    rw [hshape, List.drop_left' hheadLength]
  have hrest : (head ++ size ++ piece.data ++ suffix).drop 4 = piece.data ++ suffix := by
    rw [show 4 = 2 + 2 from rfl, ← List.drop_drop, hdrop, List.drop_left' hsizeLength]
  have hparts : ShardWord.ofNat (Bytes.toNatBE head) = ⟨piece.shard, piece.piece, piece.final⟩ := by
    have hlt : word < 65536 := ShardWord.toNat_lt _
    rw [hhead, Bytes.toNatBE_ofNatBE, show Nat.pow 256 2 = 65536 from rfl, Nat.mod_eq_of_lt hlt,
      hword, ShardWord.ofNat_toNat hshard hpiece]
  have hdeclared : Bytes.toNatLE size = piece.data.length := by
    have hfits : piece.data.length < 65536 := by simp only [maximumLength] at hlong; omega
    rw [hsize, Bytes.toNatLE_ofNatLE, show Nat.pow 256 2 = 65536 from rfl, Nat.mod_eq_of_lt hfits]
  refine parse_eq_ok_iff.mpr ⟨?_, ?_, ?_⟩
  · simp only [List.length_append]
    omega
  · rw [hdrop, List.take_left' hsizeLength, hdeclared, hrest, List.length_append]
    omega
  · rw [htake, hdrop, List.take_left' hsizeLength, hdeclared, hrest, List.take_left, hparts]

/-! ### Cutting a payload -/

/-- The pieces of a shard that carries a payload. -/
structure WholeShard (shard : Nat) (payload : Bytes) (pieces : List ShardPiece) : Prop where
  ne_nil : pieces ≠ []
  length_le : pieces.length ≤ maximumPieces
  shard_eq : ∀ piece ∈ pieces, piece.shard = shard % 64
  piece_eq : ∀ (number : Nat) (piece : ShardPiece), pieces[number]? = some piece →
    piece.piece = number
  final_iff : ∀ (number : Nat) (piece : ShardPiece), pieces[number]? = some piece →
    (piece.final = true ↔ number + 1 = pieces.length)
  flatten_data : (pieces.map data).flatten = payload

theorem getElem?_numbered (shard : Nat) (runs : List Bytes) (first number : Nat) :
    (numbered shard first runs)[number]? =
      runs[number]?.map fun run =>
        make shard (first + number) (decide (number + 1 = runs.length)) run := by
  induction runs generalizing first number with
  | nil => rfl
  | cons run rest ih =>
    cases rest with
    | nil => cases number <;> simp [numbered]
    | cons next rest =>
      rw [numbered]
      · cases number with
        | zero => simp
        | succ number =>
          rw [List.getElem?_cons_succ, List.getElem?_cons_succ, ih]
          have hnumber : first + 1 + number = first + (number + 1) := by omega
          simp [hnumber]
      · simp

@[simp]
theorem length_numbered (shard first : Nat) (runs : List Bytes) :
    (numbered shard first runs).length = runs.length := by
  induction runs generalizing first with
  | nil => rfl
  | cons run rest ih =>
    cases rest with
    | nil => rfl
    | cons next rest =>
      rw [numbered]
      · simp only [List.length_cons, ih]
      · simp

theorem map_data_numbered (shard first : Nat) (runs : List Bytes) :
    (numbered shard first runs).map data = runs := by
  refine List.ext_getElem? fun number => ?_
  rw [List.getElem?_map, getElem?_numbered]
  cases runs[number]? <;> rfl

theorem split_eq_ok {shard : Nat} {payload : Bytes} {maximum : Nat} {pieces : List ShardPiece}
    (hsplit : split shard payload maximum = .ok pieces) :
    ∃ runs : List Bytes, runs ≠ [] ∧ runs.length ≤ maximumPieces ∧ runs.flatten = payload ∧
      (∀ run ∈ runs, run.length ≤ max maximum 1) ∧ pieces = numbered shard 0 runs := by
  rw [split] at hsplit
  by_cases hempty : payload.isEmpty = true
  · rw [if_pos hempty] at hsplit
    have hpayload : payload = [] := List.isEmpty_iff.mp hempty
    refine ⟨[[]], by simp, by decide, by simp [hpayload], by simp, ?_⟩
    exact (Except.ok.inj hsplit).symm
  · rw [if_neg hempty] at hsplit
    have hpayload : payload ≠ [] := fun heq => hempty (by simp [heq])
    by_cases hmany : maximumPieces < (Bytes.chunks maximum payload).length
    · simp only [if_pos hmany, reduceCtorEq] at hsplit
    · simp only [if_neg hmany, Except.ok.injEq] at hsplit
      exact ⟨Bytes.chunks maximum payload, Bytes.chunks_ne_nil hpayload, Nat.le_of_not_lt hmany,
        Bytes.flatten_chunks maximum payload,
        fun run hmem => Bytes.length_le_of_mem_chunksWithin hmem, hsplit.symm⟩

theorem wholeShard_of_split {shard : Nat} {payload : Bytes} {maximum : Nat}
    {pieces : List ShardPiece} (hsplit : split shard payload maximum = .ok pieces) :
    WholeShard shard payload pieces := by
  obtain ⟨runs, hne, hmany, hflatten, _, rfl⟩ := split_eq_ok hsplit
  have hparts : ∀ number piece, (numbered shard 0 runs)[number]? = some piece →
      ∃ run, piece = make shard number (decide (number + 1 = runs.length)) run ∧
        number < runs.length := by
    intro number piece hpiece
    rw [getElem?_numbered, Option.map_eq_some_iff] at hpiece
    obtain ⟨run, hrun, hpiece⟩ := hpiece
    rw [Nat.zero_add] at hpiece
    exact ⟨run, hpiece.symm, (List.getElem?_eq_some_iff.mp hrun).1⟩
  constructor
  case ne_nil =>
    intro hnil
    have hlength := congrArg List.length hnil
    rw [length_numbered, List.length_nil] at hlength
    exact hne (List.eq_nil_of_length_eq_zero hlength)
  case length_le => rwa [length_numbered]
  case shard_eq =>
    intro piece hmem
    obtain ⟨number, hpiece⟩ := List.mem_iff_getElem?.mp hmem
    obtain ⟨run, rfl, _⟩ := hparts number piece hpiece
    rfl
  case piece_eq =>
    intro number piece hpiece
    obtain ⟨run, rfl, hlt⟩ := hparts number piece hpiece
    exact Nat.mod_eq_of_lt (Nat.lt_of_lt_of_le hlt hmany)
  case final_iff =>
    intro number piece hpiece
    obtain ⟨run, rfl, _⟩ := hparts number piece hpiece
    rw [length_numbered]
    simp [make]
  case flatten_data => rw [map_data_numbered, hflatten]

/-- Every piece fits its length field if the runs are cut short enough for it. -/
theorem exists_encode_of_split {shard : Nat} {payload : Bytes} {maximum : Nat}
    {pieces : List ShardPiece} (hsplit : split shard payload maximum = .ok pieces)
    (hmaximum : maximum ≤ maximumLength) {piece : ShardPiece} (hmem : piece ∈ pieces) :
    ∃ bytes, piece.encode = .ok bytes := by
  obtain ⟨runs, _, _, _, hruns, rfl⟩ := split_eq_ok hsplit
  have hdata : piece.data ∈ runs := by
    rw [← map_data_numbered shard 0 runs]
    exact List.mem_map_of_mem hmem
  have hfits : ¬ maximumLength < piece.data.length := by
    have hrun := hruns _ hdata
    simp only [maximumLength] at hmaximum ⊢
    omega
  exact ⟨_, by rw [encode, if_neg hfits]⟩

end ShardPiece

end SensorGateway
