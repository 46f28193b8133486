import Mathlib.Data.List.Basic
import SensorGateway.Envelope.Frame

/-!
# Envelopes and the byte strings they are written as

A frame is written as identity, header byte, payload and checksum, one after the other, and the
first two have a fixed length. So the byte string determines the parts, provided that the header
byte determines the header: its three fields lie in disjoint groups of bits, the count in the four
high ones. The fields leave no bit of the byte over either, so every byte string that is long enough
and ends in its checksum has been written from exactly one frame (`codec_bijective`).
-/

namespace SensorGateway

theorem PacketType.toNat_bits_ofBits (byte : UInt8) :
    (ofBits byte).bits.toNat = byte.toNat % 8 := by
  have hlt : byte.toNat % 8 < 8 := Nat.mod_lt _ (by decide)
  unfold ofBits
  generalize byte.toNat % 8 = residue at hlt
  match residue, hlt with
  | 0, _ | 1, _ | 2, _ | 3, _ | 4, _ | 5, _ | 6, _ | 7, _ => rfl

namespace Header

@[simp]
theorem make_paramCount_mod (paramCount : UInt8) (fragmented : Bool) (packetType : PacketType) :
    make (paramCount % 16) fragmented packetType = make paramCount fragmented packetType := by
  rw [make, make, Header.mk.injEq]
  refine ⟨UInt8.toNat_inj.mp ?_, rfl, rfl⟩
  simp

theorem toNat_toByte_make (paramCount : UInt8) (fragmented : Bool) (packetType : PacketType) :
    (make paramCount fragmented packetType).toByte.toNat =
      paramCount.toNat % 16 * 16 + (if fragmented then 8 else 0) + packetType.bits.toNat := by
  have hcount : paramCount.toNat % 16 < 16 := Nat.mod_lt _ (by decide)
  cases fragmented <;> cases packetType <;>
    simp [make, toByte, PacketType.bits] <;> omega

theorem ofByte_toByte_make (paramCount : UInt8) (fragmented : Bool) (packetType : PacketType) :
    ofByte (make paramCount fragmented packetType).toByte =
      make paramCount fragmented packetType := by
  have hbyte := toNat_toByte_make paramCount fragmented packetType
  have hcount : (make paramCount fragmented packetType).toByte / 16 = paramCount % 16 := by
    apply UInt8.toNat_inj.mp
    rw [UInt8.toNat_div, UInt8.toNat_mod, hbyte]
    cases fragmented <;> cases packetType <;> simp [PacketType.bits] <;> omega
  have hfragmented : (make paramCount fragmented packetType).toByte / 8 % 2 =
      if fragmented then 1 else 0 := by
    apply UInt8.toNat_inj.mp
    rw [UInt8.toNat_mod, UInt8.toNat_div, hbyte]
    cases fragmented <;> cases packetType <;> simp [PacketType.bits] <;> omega
  have htype : (make paramCount fragmented packetType).toByte.toNat % 8 =
      packetType.bits.toNat := by
    rw [hbyte]
    cases fragmented <;> cases packetType <;> simp [PacketType.bits] <;> omega
  have hbits : PacketType.ofBits (make paramCount fragmented packetType).toByte = packetType := by
    rw [PacketType.ofBits, htype]
    cases packetType <;> rfl
  rw [ofByte, hcount, hfragmented, hbits]
  cases fragmented <;> rfl

theorem toByte_ofByte (byte : UInt8) : (ofByte byte).toByte = byte := by
  have hlt := byte.toNat_lt
  have hbits := PacketType.toNat_bits_ofBits byte
  apply UInt8.toNat_inj.mp
  unfold toByte ofByte
  dsimp only
  rcases Nat.mod_two_eq_zero_or_one (byte.toNat / 8) with hclear | hset
  · have hfragmented : (byte / 8 % 2 == 1) = false := by
      rw [beq_eq_false_iff_ne, ne_eq, ← UInt8.toNat_inj]
      simp [hclear]
    rw [hfragmented]
    simp [hbits]
    omega
  · have hfragmented : (byte / 8 % 2 == 1) = true := by
      rw [beq_iff_eq, ← UInt8.toNat_inj]
      simp [hset]
    rw [hfragmented]
    simp [hbits]
    omega

theorem make_ofByte (byte : UInt8) :
    make (ofByte byte).paramCount (ofByte byte).fragmented (ofByte byte).packetType =
      ofByte byte := by
  have hread := ofByte_toByte_make (ofByte byte).paramCount (ofByte byte).fragmented
    (ofByte byte).packetType
  have hbyte : (make (ofByte byte).paramCount (ofByte byte).fragmented
      (ofByte byte).packetType).toByte = (ofByte byte).toByte := by
    unfold make toByte
    dsimp only
    congr 3
    apply UInt8.toNat_inj.mp
    simp
  rw [hbyte, toByte_ofByte] at hread
  exact hread.symm

end Header

namespace Frame

/-! ### The parts of a byte string -/

theorem length_covered (identity : Identity) (header : Header) (payload : Bytes) :
    (covered identity header payload).length = payload.length + 7 := by
  simp only [covered, List.length_append, List.length_cons, identity.length_bytes]
  omega

theorem split?_covered (identity : Identity) (header : Header) (payload : Bytes) :
    split? (covered identity header payload) =
      some (identity, Header.ofByte header.toByte, payload) := by
  have htake : (covered identity header payload).take 6 = identity.bytes := by
    rw [covered, List.take_left' identity.length_bytes]
  have hdrop : (covered identity header payload).drop 6 = header.toByte :: payload := by
    rw [covered, List.drop_left' identity.length_bytes]
  have hlength : ((covered identity header payload).take 6).length = 6 := by
    rw [htake, identity.length_bytes]
  rw [split?, dif_pos hlength, hdrop]
  simp only [htake]

theorem exists_eq_covered {body : Bytes} (hlong : 7 ≤ body.length) :
    ∃ identity byte payload, body = covered identity (Header.ofByte byte) payload := by
  have htake : (body.take 6).length = 6 := by
    rw [List.length_take]
    omega
  obtain ⟨byte, payload, hdrop⟩ : ∃ byte payload, body.drop 6 = byte :: payload := by
    apply List.exists_cons_of_length_pos
    rw [List.length_drop]
    omega
  refine ⟨⟨body.take 6, htake⟩, byte, payload, ?_⟩
  unfold covered
  rw [Header.toByte_ofByte, ← hdrop, List.take_append_drop]

@[simp]
theorem header_make (identity : Identity) (header : Header) (payload : Bytes) :
    (make identity header payload).header =
      Header.make header.paramCount header.fragmented header.packetType := rfl

theorem take_withChecksum (bytes : Bytes) :
    (withChecksum bytes).take ((withChecksum bytes).length - 2) = bytes := by
  rw [length_withChecksum, Nat.add_sub_cancel, withChecksum, List.take_left]

theorem ofNat_toNatBE_drop_withChecksum (bytes : Bytes) :
    UInt16.ofNat (Bytes.toNatBE ((withChecksum bytes).drop ((withChecksum bytes).length - 2))) =
      SensorGateway.checksum bytes := by
  rw [length_withChecksum, Nat.add_sub_cancel, withChecksum, List.drop_left,
    Bytes.toNatBE_ofNatBE]
  apply UInt16.toNat_inj.mp
  have hlt := (SensorGateway.checksum bytes).toNat_lt
  simp only [UInt16.toNat_ofNat']
  change _ % 65536 % 65536 = _
  omega

/-- What a frame can have been written as: the byte string is long enough, and its last two bytes,
high byte first, are the checksum of the others. -/
structure IsSealed (raw : Bytes) : Prop where
  long : 9 ≤ raw.length
  checksum_eq : Bytes.toNatBE (raw.drop (raw.length - 2)) =
    (SensorGateway.checksum (raw.take (raw.length - 2))).toNat

variable {raw : Bytes}

theorem received_eq_iff (hlong : 9 ≤ raw.length) :
    UInt16.ofNat (Bytes.toNatBE (raw.drop (raw.length - 2))) =
        SensorGateway.checksum (raw.take (raw.length - 2)) ↔ IsSealed raw := by
  have hlast : (raw.drop (raw.length - 2)).reverse.length = 2 := by
    rw [List.length_reverse, List.length_drop]
    omega
  have hlt : Bytes.toNatBE (raw.drop (raw.length - 2)) < 65536 := by
    have hbound := Bytes.toNatLE_lt (raw.drop (raw.length - 2)).reverse
    rw [hlast] at hbound
    exact hbound
  rw [← UInt16.toNat_inj, UInt16.toNat_ofNat_of_lt' hlt]
  exact ⟨fun heq => ⟨hlong, heq⟩, fun h => h.checksum_eq⟩

theorem IsSealed.eq_withChecksum (h : IsSealed raw) :
    raw = withChecksum (raw.take (raw.length - 2)) := by
  have hlong := h.long
  have hlast : (raw.drop (raw.length - 2)).length = 2 := by
    rw [List.length_drop]
    omega
  have hwritten := Bytes.ofNatBE_toNatBE (raw.drop (raw.length - 2))
  rw [hlast, h.checksum_eq] at hwritten
  unfold withChecksum
  rw [hwritten, List.take_append_drop]

theorem IsSealed.exists_eq (h : IsSealed raw) :
    ∃ identity byte payload,
      raw = withChecksum (covered identity (Header.ofByte byte) payload) := by
  have hbody : 7 ≤ (raw.take (raw.length - 2)).length := by
    have hlong := h.long
    rw [List.length_take]
    omega
  obtain ⟨identity, byte, payload, hcovered⟩ := exists_eq_covered hbody
  refine ⟨identity, byte, payload, ?_⟩
  rw [← hcovered]
  exact h.eq_withChecksum

/-! ### Reading and writing -/

section Covered

variable (identity : Identity) (header : Header) (payload : Bytes)

theorem not_short_withChecksum_covered :
    ¬ (withChecksum (covered identity header payload)).length < minimumLength := by
  rw [length_withChecksum, length_covered, minimumLength]
  omega

theorem decode_withChecksum_covered :
    decode (withChecksum (covered identity header payload)) =
      .ok
        { identity
          paramCount := (Header.ofByte header.toByte).paramCount
          fragmented := (Header.ofByte header.toByte).fragmented
          packetType := (Header.ofByte header.toByte).packetType
          payload
          checksum := SensorGateway.checksum (covered identity header payload) } := by
  rw [decode, if_neg (not_short_withChecksum_covered identity header payload)]
  simp only [ofNat_toNatBE_drop_withChecksum, take_withChecksum, ne_eq, not_true_eq_false,
    if_false, split?_covered]

theorem peek_withChecksum_covered :
    peek (withChecksum (covered identity header payload)) =
      .ok (identity, Header.ofByte header.toByte) := by
  rw [peek, if_neg (not_short_withChecksum_covered identity header payload)]
  simp only [take_withChecksum, split?_covered]

end Covered

theorem decode_of_short (hshort : raw.length < 9) :
    decode raw = .error (.frameTooShort raw.length 9) := by
  unfold decode minimumLength
  rw [if_pos hshort]

theorem decode_of_not_isSealed (hlong : 9 ≤ raw.length) (hnot : ¬ IsSealed raw) :
    decode raw = .error (.checksumMismatch
      (UInt16.ofNat (Bytes.toNatBE (raw.drop (raw.length - 2))))
      (SensorGateway.checksum (raw.take (raw.length - 2)))) := by
  unfold decode minimumLength
  rw [if_neg (by omega)]
  dsimp only
  rw [if_pos (mt (received_eq_iff hlong).mp hnot)]

theorem IsSealed.exists_decode (h : IsSealed raw) :
    ∃ frame, decode raw = .ok frame ∧ frame.encode = raw ∧
      peek raw = .ok (frame.identity, ⟨frame.paramCount, frame.fragmented, frame.packetType⟩) := by
  obtain ⟨identity, byte, payload, rfl⟩ := h.exists_eq
  refine ⟨_, decode_withChecksum_covered identity _ payload, ?_, ?_⟩
  · unfold encode header
    dsimp only
    rw [Header.toByte_ofByte, Header.make_ofByte]
  · exact peek_withChecksum_covered identity _ payload

theorem exists_decode_iff : (∃ frame, decode raw = .ok frame) ↔ IsSealed raw := by
  constructor
  · rintro ⟨frame, hdecode⟩
    by_contra hnot
    rcases Nat.lt_or_ge raw.length 9 with hshort | hlong
    · rw [decode_of_short hshort] at hdecode
      cases hdecode
    · rw [decode_of_not_isSealed hlong hnot] at hdecode
      cases hdecode
  · intro h
    obtain ⟨frame, hdecode, _⟩ := h.exists_decode
    exact ⟨frame, hdecode⟩

/-- Too few bytes are found out before a wrong checksum, and nothing else can be wrong. -/
theorem decode_eq_error_iff {failure : Failure} :
    decode raw = .error failure ↔
      (raw.length < 9 ∧ failure = .frameTooShort raw.length 9) ∨
        (9 ≤ raw.length ∧ ¬ IsSealed raw ∧ failure = .checksumMismatch
          (UInt16.ofNat (Bytes.toNatBE (raw.drop (raw.length - 2))))
          (SensorGateway.checksum (raw.take (raw.length - 2)))) := by
  rcases Nat.lt_or_ge raw.length 9 with hshort | hlong
  · rw [decode_of_short hshort, Except.error.injEq]
    constructor
    · intro heq
      exact Or.inl ⟨hshort, heq.symm⟩
    · rintro (⟨_, rfl⟩ | ⟨hlong, _⟩)
      · rfl
      · omega
  · by_cases h : IsSealed raw
    · obtain ⟨frame, hdecode, _⟩ := h.exists_decode
      simp only [hdecode, reduceCtorEq, h, not_true_eq_false, false_and, and_false, or_false,
        false_iff, not_and]
      omega
    · rw [decode_of_not_isSealed hlong h, Except.error.injEq]
      constructor
      · intro heq
        exact Or.inr ⟨hlong, h, heq.symm⟩
      · rintro (⟨hshort, _⟩ | ⟨_, _, rfl⟩)
        · omega
        · rfl

/-- Writing a frame and reading it back reduces its count to four bits and puts its checksum
right. -/
theorem decode_encode (frame : Frame) :
    decode frame.encode =
      .ok
        { frame with
          paramCount := frame.paramCount % 16
          checksum :=
            SensorGateway.checksum (covered frame.identity frame.header frame.payload) } := by
  unfold encode
  rw [decode_withChecksum_covered]
  unfold header
  rw [Header.ofByte_toByte_make]
  rfl

theorem decode_encode_make (identity : Identity) (paramCount : UInt8) (fragmented : Bool)
    (packetType : PacketType) (payload : Bytes) :
    decode (make identity (Header.make paramCount fragmented packetType) payload).encode =
      .ok (make identity (Header.make paramCount fragmented packetType) payload) := by
  have hcount : paramCount % 16 % 16 = paramCount % 16 :=
    congrArg Header.paramCount (Header.make_paramCount_mod paramCount fragmented packetType)
  rw [decode_encode, Except.ok.injEq, Frame.mk.injEq]
  exact ⟨rfl, hcount, rfl, rfl, rfl, rfl⟩

/-- **The envelope codec is a bijection** between the byte strings that end in their checksum and
the frames with a count of four bits and a true checksum; and it says what becomes of the others. -/
theorem codec_bijective :
    (∀ raw, (∃ frame, decode raw = .ok frame) ↔ IsSealed raw) ∧
      (∀ raw failure, decode raw = .error failure ↔
        (raw.length < 9 ∧ failure = .frameTooShort raw.length 9) ∨
          (9 ≤ raw.length ∧ ¬ IsSealed raw ∧ failure = .checksumMismatch
            (UInt16.ofNat (Bytes.toNatBE (raw.drop (raw.length - 2))))
            (SensorGateway.checksum (raw.take (raw.length - 2))))) ∧
      (∀ raw frame, decode raw = .ok frame →
        frame.encode = raw ∧
          peek raw =
            .ok (frame.identity, ⟨frame.paramCount, frame.fragmented, frame.packetType⟩)) ∧
      (∀ identity paramCount fragmented packetType payload,
        decode (make identity (Header.make paramCount fragmented packetType) payload).encode =
          .ok (make identity (Header.make paramCount fragmented packetType) payload)) ∧
      ∀ frame : Frame, decode frame.encode =
        .ok
          { frame with
            paramCount := frame.paramCount % 16
            checksum :=
              SensorGateway.checksum (covered frame.identity frame.header frame.payload) } := by
  refine ⟨fun raw => exists_decode_iff, fun raw failure => decode_eq_error_iff, ?_,
    decode_encode_make, decode_encode⟩
  intro raw frame hdecode
  obtain ⟨other, hother, hraw, hpeek⟩ := (exists_decode_iff.mp ⟨frame, hdecode⟩).exists_decode
  rw [hdecode, Except.ok.injEq] at hother
  rw [hother]
  exact ⟨hraw, hpeek⟩

/-- A piece of an alarm with three parameters. -/
theorem codec_bijective_alarm :
    let raw : Bytes := [0xAA, 0xBB, 0xCC, 0xDD, 0xEE, 0xFF, 0x3A, 1, 2, 78, 160]
    let frame : Frame :=
      ⟨⟨[0xAA, 0xBB, 0xCC, 0xDD, 0xEE, 0xFF], rfl⟩, 3, true, .alarm, [1, 2], 0x4EA0⟩
    decode raw = .ok frame ∧ frame.encode = raw ∧
      peek raw = .ok (frame.identity, ⟨3, true, .alarm⟩) := by
  intro raw frame
  have hdecode : decode raw = .ok frame := by decide +kernel
  exact ⟨hdecode, codec_bijective.2.2.1 raw frame hdecode⟩

end Frame

end SensorGateway
