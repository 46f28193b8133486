import Mathlib.Data.List.Basic
import SensorGateway.Proofs.Bytes.Damage
import SensorGateway.Proofs.Envelope

/-!
# Damage that is noticed

A frame carries its checksum with the high byte first, while the register gives its low bits away
first. With the two bytes exchanged (`dividend`) a byte string is a frame if and only if the
register ends at zero. So a damaged frame is accepted if and only if the damage alone leaves no
remainder. The generator has the factor `x + 1`, and no remainder means an even number of bits. Its
constant term is not zero, and two bytes in a row always leave one. And the powers of `x` differ
from each other for `32767` steps, which are the bits of `4095` bytes; in `4096` bytes there are two
bits that go unnoticed together (`two_bits_unnoticed`).
-/

namespace SensorGateway

open Checksum

namespace Bytes

theorem flip_append_of_lt {left : Bytes} (right : Bytes) {bit : Nat}
    (hbit : bit < 8 * left.length) : flip (left ++ right) bit = flip left bit ++ right := by
  induction left generalizing bit with
  | nil => exact absurd hbit (Nat.not_lt_zero bit)
  | cons byte left ih =>
    rw [List.length_cons] at hbit
    rw [List.cons_append]
    by_cases hlow : bit < 8
    · rw [flip_cons_of_lt _ _ hlow, flip_cons_of_lt _ _ hlow, List.cons_append]
    · have hhigh : 8 ≤ bit := by omega
      rw [flip_cons_of_le _ _ hhigh, flip_cons_of_le _ _ hhigh, ih (by omega), List.cons_append]

theorem flip_append_of_le {left : Bytes} (right : Bytes) {bit : Nat}
    (hbit : 8 * left.length ≤ bit) :
    flip (left ++ right) bit = left ++ flip right (bit - 8 * left.length) := by
  induction left generalizing bit with
  | nil => rfl
  | cons byte left ih =>
    rw [List.length_cons] at hbit ⊢
    have hcount : bit - 8 - 8 * left.length = bit - 8 * (left.length + 1) := by omega
    rw [List.cons_append, flip_cons_of_le _ _ (by omega), ih (by omega), hcount, List.cons_append]

theorem weight_reverse (bytes : Bytes) : weight bytes.reverse = weight bytes := by
  rw [weight, List.map_reverse, List.sum_reverse]
  rfl

end Bytes

namespace Frame

/-! ### The remainder -/

/-- The byte string as the register takes it in: the low byte of the checksum comes first. -/
def dividend (raw : Bytes) : Bytes :=
  raw.take (raw.length - 2) ++ (raw.drop (raw.length - 2)).reverse

theorem dividend_append (body : Bytes) (high low : UInt8) :
    dividend (body ++ [high, low]) = body ++ [low, high] := by
  have hcount : (body ++ [high, low]).length - 2 = body.length := by simp
  rw [dividend, hcount, List.take_left, List.drop_left]
  rfl

theorem exists_eq_append {raw : Bytes} (hlong : 9 ≤ raw.length) :
    ∃ body high low, raw = body ++ [high, low] := by
  have hlast : (raw.drop (raw.length - 2)).length = 2 := by
    rw [List.length_drop]
    omega
  obtain ⟨high, low, hdrop⟩ := List.length_eq_two.mp hlast
  refine ⟨raw.take (raw.length - 2), high, low, ?_⟩
  rw [← hdrop, List.take_append_drop]

variable {raw other : Bytes}

theorem isSealed_append_iff {body : Bytes} (hlong : 7 ≤ body.length) (high low : UInt8) :
    IsSealed (body ++ [high, low]) ↔
      [low, high] = Bytes.ofNatLE 2 (SensorGateway.checksum body).toNat := by
  have hwritten : IsSealed (body ++ [high, low]) ↔ body ++ [high, low] = withChecksum body := by
    constructor
    · intro h
      have hcount : (body ++ [high, low]).length - 2 = body.length := by simp
      have heq := h.eq_withChecksum
      rwa [hcount, List.take_left] at heq
    · intro heq
      rw [heq]
      apply (received_eq_iff _).mp
      · rw [ofNat_toNatBE_drop_withChecksum, take_withChecksum]
      · rw [length_withChecksum]
        omega
  rw [hwritten, withChecksum, List.append_cancel_left_eq, Bytes.ofNatBE, ← List.reverse_eq_iff]
  rfl

/-- A frame leaves no remainder, and what leaves none is a frame. -/
theorem isSealed_iff_checksum_dividend (hlong : 9 ≤ raw.length) :
    IsSealed raw ↔ SensorGateway.checksum (dividend raw) = 0 := by
  obtain ⟨body, high, low, rfl⟩ := exists_eq_append hlong
  have hbody : 7 ≤ body.length := by
    simpa using hlong
  have hown := foldl_absorb_own (SensorGateway.checksum body)
  rw [isSealed_append_iff hbody, dividend_append, checksum_append]
  constructor
  · intro heq
    rw [heq, hown]
  · intro hzero
    rw [← hown] at hzero
    obtain ⟨rfl, rfl⟩ := absorb_absorb_inj hzero
    rfl

/-! ### Odd numbers of bits -/

theorem weight_dividend (raw : Bytes) : (dividend raw).weight = raw.weight := by
  rw [dividend, Bytes.weight_append, Bytes.weight_reverse, ← Bytes.weight_append,
    List.take_append_drop]

theorem IsSealed.even_weight (h : IsSealed raw) : raw.weight % 2 = 0 := by
  have hzero := (isSealed_iff_checksum_dividend h.long).mp h
  have hweight := weight_foldl_absorb_mod_two (dividend raw) 0xFFFF
  have hfull : weight 0xFFFF = 16 := by decide
  have hclear : weight 0 = 0 := by decide
  rw [← SensorGateway.checksum, hzero, weight_dividend] at hweight
  omega

theorem IsSealed.not_of_odd (h : IsSealed raw) (hlength : other.length = raw.length)
    (hodd : Bytes.distance raw other % 2 = 1) : ¬ IsSealed other := by
  intro hother
  have hdistance := Bytes.distance_mod_two hlength.symm
  have hraw := h.even_weight
  have hweight := hother.even_weight
  omega

/-! ### Two bytes in a row -/

theorem IsSealed.not_of_near (h : IsSealed raw) (hlength : other.length = raw.length)
    {position : Nat} (hinside : position + 4 ≤ raw.length) (hne : other ≠ raw)
    (hsame : ∀ index, index ≠ position → index ≠ position + 1 → other[index]? = raw[index]?) :
    ¬ IsSealed other := by
  intro hother
  have hdrop : other.drop (other.length - 2) = raw.drop (raw.length - 2) := by
    apply List.ext_getElem?
    intro index
    rw [List.getElem?_drop, List.getElem?_drop, hlength]
    exact hsame _ (by omega) (by omega)
  have hchecksum : SensorGateway.checksum (other.take (other.length - 2)) =
      SensorGateway.checksum (raw.take (raw.length - 2)) := by
    apply UInt16.toNat_inj.mp
    rw [← hother.checksum_eq, hdrop, h.checksum_eq]
  have htake : other.take (other.length - 2) = raw.take (raw.length - 2) := by
    apply eq_of_foldl_absorb_eq position _ _ _ hchecksum
    · rw [List.length_take, List.length_take, hlength]
    · rw [List.length_take]
      omega
    · intro index hposition hnext
      rw [List.getElem?_take, List.getElem?_take, hsame index hposition hnext, hlength]
  apply hne
  rw [← List.take_append_drop (other.length - 2) other, htake, hdrop, List.take_append_drop]

/-! ### Two bits -/

/-- Where a bit of a frame stands in what the register takes in. -/
def place (length bit : Nat) : Nat :=
  if bit < 8 * (length - 2) then bit
  else if bit < 8 * (length - 1) then bit + 8
  else bit - 8

theorem dividend_flip (hlong : 9 ≤ raw.length) {bit : Nat} (hbit : bit < 8 * raw.length) :
    dividend (raw.flip bit) = (dividend raw).flip (place raw.length bit) := by
  obtain ⟨body, high, low, rfl⟩ := exists_eq_append hlong
  have hlength : (body ++ [high, low]).length = body.length + 2 := by simp
  rw [hlength] at hbit
  rw [dividend_append, hlength, place]
  split_ifs with hbody hhigh
  · rw [Bytes.flip_append_of_lt _ hbody, Bytes.flip_append_of_lt _ hbody, dividend_append]
  · have hfirst : bit - 8 * body.length < 8 := by omega
    have hsecond : bit + 8 - 8 * body.length - 8 = bit - 8 * body.length := by omega
    rw [Bytes.flip_append_of_le _ (by omega), Bytes.flip_append_of_le _ (by omega),
      Bytes.flip_cons_of_lt _ _ hfirst, Bytes.flip_cons_of_le _ _ (by omega), hsecond,
      Bytes.flip_cons_of_lt _ _ hfirst, dividend_append]
  · have hfirst : bit - 8 - 8 * body.length < 8 := by omega
    have hsecond : bit - 8 * body.length - 8 = bit - 8 - 8 * body.length := by omega
    rw [Bytes.flip_append_of_le _ (by omega), Bytes.flip_append_of_le _ (by omega),
      Bytes.flip_cons_of_le _ _ (by omega), hsecond, Bytes.flip_cons_of_lt _ _ hfirst,
      Bytes.flip_cons_of_lt _ _ hfirst, dividend_append]

theorem length_dividend (raw : Bytes) : (dividend raw).length = raw.length := by
  rw [dividend, List.length_append, List.length_reverse, ← List.length_append,
    List.take_append_drop]

theorem place_lt {length bit : Nat} (hlong : 9 ≤ length) (hbit : bit < 8 * length) :
    place length bit < 8 * length := by
  unfold place
  split_ifs <;> omega

theorem place_inj {length left right : Nat} (hlong : 9 ≤ length)
    (heq : place length left = place length right) (hleft : left < 8 * length)
    (hright : right < 8 * length) : left = right := by
  unfold place at heq
  split_ifs at heq <;> omega

/-- One bit adds a power of `x` to the remainder, the exponent counted from the end. -/
theorem checksum_dividend_flip (hlong : 9 ≤ raw.length) {bit : Nat}
    (hbit : bit < 8 * raw.length) :
    SensorGateway.checksum (dividend (raw.flip bit)) =
      SensorGateway.checksum (dividend raw) ^^^
        step^[8 * raw.length - place raw.length bit] 1 := by
  have hplace : place raw.length bit < 8 * (dividend raw).length := by
    rw [length_dividend]
    exact place_lt hlong hbit
  rw [dividend_flip hlong hbit, SensorGateway.checksum, foldl_absorb_flip hplace, length_dividend,
    SensorGateway.checksum]

/-- Two bits go unnoticed if and only if `x` has the same power at both. -/
theorem IsSealed.flip_flip_iff (h : IsSealed raw) {left right : Nat}
    (hleft : left < 8 * raw.length) (hright : right < 8 * raw.length) :
    IsSealed ((raw.flip left).flip right) ↔
      (8 * raw.length - place raw.length left) % 32767 =
        (8 * raw.length - place raw.length right) % 32767 := by
  have hlong := h.long
  have hflip : 9 ≤ (raw.flip left).length := by rwa [Bytes.length_flip]
  have hboth : 9 ≤ ((raw.flip left).flip right).length := by rwa [Bytes.length_flip]
  rw [← iterate_step_one_eq_iff, isSealed_iff_checksum_dividend hboth,
    checksum_dividend_flip hflip (by rwa [Bytes.length_flip]), checksum_dividend_flip hlong hleft,
    (isSealed_iff_checksum_dividend hlong).mp h, Bytes.length_flip, UInt16.zero_xor,
    UInt16.xor_eq_zero_iff]

theorem IsSealed.not_of_flip_flip (h : IsSealed raw) (hshort : raw.length ≤ 4095)
    {left right : Nat} (hne : left ≠ right) (hleft : left < 8 * raw.length)
    (hright : right < 8 * raw.length) : ¬ IsSealed ((raw.flip left).flip right) := by
  have hlong := h.long
  have hfirst := place_lt hlong hleft
  have hsecond := place_lt hlong hright
  rw [h.flip_flip_iff hleft hright, Nat.mod_eq_of_lt (by omega), Nat.mod_eq_of_lt (by omega)]
  intro heq
  exact hne (place_inj hlong (by omega) hleft hright)

/-! ### What is noticed -/

theorem exists_checksumMismatch (hlong : 9 ≤ raw.length) (hnot : ¬ IsSealed raw) :
    ∃ received calculated, received ≠ calculated ∧
      decode raw = .error (.checksumMismatch received calculated) :=
  ⟨_, _, mt (received_eq_iff hlong).mp hnot, decode_of_not_isSealed hlong hnot⟩

/-- Damage that is noticed in a frame of any length. -/
inductive Detectable (raw other : Bytes) : Prop
  /-- An odd number of bits, wherever they lie. -/
  | odd (hdistance : Odd (Bytes.distance raw other))
  /-- Any of the bits of two bytes in a row before the checksum. -/
  | near (position : Nat) (hinside : position + 4 ≤ raw.length) (hne : other ≠ raw)
    (hsame : ∀ index, index ≠ position → index ≠ position + 1 → other[index]? = raw[index]?)

/-- **Damaged frames are noticed**, whatever their length. -/
theorem damage_noticed {raw other : Bytes} {frame : Frame} (hdecode : decode raw = .ok frame)
    (hlength : other.length = raw.length) (hdamage : Detectable raw other) :
    ∃ received calculated, received ≠ calculated ∧
      decode other = .error (.checksumMismatch received calculated) := by
  have h := exists_decode_iff.mp ⟨frame, hdecode⟩
  apply exists_checksumMismatch
  · rw [hlength]
    exact h.long
  · cases hdamage with
    | odd hdistance => exact h.not_of_odd hlength (Nat.odd_iff.mp hdistance)
    | near position hinside hne hsame => exact h.not_of_near hlength hinside hne hsame

/-- Three bits of the first byte, or the two bytes before the checksum. -/
theorem damage_noticed_alarm :
    let raw : Bytes := [0xAA, 0xBB, 0xCC, 0xDD, 0xEE, 0xFF, 0x3A, 1, 2, 78, 160]
    let bits : Bytes := raw.set 0 0xAD
    let bytes : Bytes := (raw.set 7 0x56).set 8 0x78
    (∃ received calculated, received ≠ calculated ∧
        decode bits = .error (.checksumMismatch received calculated)) ∧
      ∃ received calculated, received ≠ calculated ∧
        decode bytes = .error (.checksumMismatch received calculated) := by
  intro raw bits bytes
  have hdecode : decode raw =
      .ok ⟨⟨[0xAA, 0xBB, 0xCC, 0xDD, 0xEE, 0xFF], rfl⟩, 3, true, .alarm, [1, 2], 0x4EA0⟩ := by
    decide +kernel
  constructor
  · exact damage_noticed hdecode rfl (.odd (by decide +kernel))
  · refine damage_noticed hdecode rfl (.near 7 (by decide) (by decide) ?_)
    intro index hfirst hsecond
    rw [List.getElem?_set_ne hsecond.symm, List.getElem?_set_ne hfirst.symm]

/-- **Two wrong bits are noticed** in a frame of at most `4095` bytes. -/
theorem two_bits_noticed {raw : Bytes} {frame : Frame} (hdecode : decode raw = .ok frame)
    (hshort : raw.length ≤ 4095) {left right : Nat} (hne : left ≠ right)
    (hleft : left < 8 * raw.length) (hright : right < 8 * raw.length) :
    ∃ received calculated, received ≠ calculated ∧
      decode ((raw.flip left).flip right) = .error (.checksumMismatch received calculated) := by
  have h := exists_decode_iff.mp ⟨frame, hdecode⟩
  apply exists_checksumMismatch
  · rw [Bytes.length_flip, Bytes.length_flip]
    exact h.long
  · exact h.not_of_flip_flip hshort hne hleft hright

/-- The first bit and the last one in a frame of `4095` bytes. -/
theorem two_bits_noticed_longest :
    let frame := make ⟨[1, 2, 3, 4, 5, 6], rfl⟩ (Header.make 0 false .monitoring)
      (List.replicate 4086 0)
    frame.encode.length = 4095 ∧ ∃ received calculated, received ≠ calculated ∧
      decode ((frame.encode.flip 0).flip 32759) =
        .error (.checksumMismatch received calculated) := by
  intro frame
  have hlength : frame.encode.length = 4095 := by
    rw [encode, length_withChecksum, length_covered]
    change (List.replicate 4086 (0 : UInt8)).length + 9 = 4095
    rw [List.length_replicate]
  have hfirst : 0 < 8 * frame.encode.length := by
    rw [hlength]
    decide
  have hlast : 32759 < 8 * frame.encode.length := by
    rw [hlength]
    decide
  exact ⟨hlength, two_bits_noticed (decode_encode_make _ 0 false .monitoring _) hlength.le
    (by decide) hfirst hlast⟩

/-- No longer frame would do: here are `32767` bits between the two. -/
theorem two_bits_unnoticed {raw : Bytes} {frame : Frame} (hdecode : decode raw = .ok frame)
    (hlength : raw.length = 4096) :
    ∃ other, decode ((raw.flip 0).flip 32759) = .ok other := by
  have h := exists_decode_iff.mp ⟨frame, hdecode⟩
  apply exists_decode_iff.mpr
  rw [h.flip_flip_iff (by omega) (by omega), hlength]
  decide

end Frame

end SensorGateway
