import Mathlib.Data.List.Basic
import SensorGateway.Proofs.Bytes.Register

/-!
# Damaged byte strings

Two byte strings of one length differ in some bits, which are counted, or only in two bytes in a
row, or only in single bits that were turned over. The checksum is a fold of linear steps, so what
it makes of a damaged byte string is what it makes of the intact one and, added to that, what the
steps still to come make of the damage.
-/

namespace SensorGateway

namespace Bytes

/-- The number of ones. -/
def weight (bytes : Bytes) : Nat :=
  (bytes.map fun byte => byte.toBitVec.cpop.toNat).sum

/-- The number of bits in which two byte strings of one length differ. -/
def distance (left right : Bytes) : Nat :=
  weight (List.zipWith (· ^^^ ·) left right)

/-- The byte string with one bit turned over, counted from the lowest bit of the first byte. -/
def flip (bytes : Bytes) (bit : Nat) : Bytes :=
  bytes.modify (bit / 8) (· ^^^ 1 <<< UInt8.ofNat (bit % 8))

theorem weight_cons (byte : UInt8) (bytes : Bytes) :
    weight (byte :: bytes) = byte.toBitVec.cpop.toNat + weight bytes := rfl

theorem weight_append (left right : Bytes) :
    weight (left ++ right) = weight left + weight right := by
  rw [weight, List.map_append, List.sum_append]
  rfl

theorem distance_mod_two {left right : Bytes} (hlength : left.length = right.length) :
    distance left right % 2 = (weight left + weight right) % 2 := by
  induction left generalizing right with
  | nil =>
    rw [List.eq_nil_of_length_eq_zero hlength.symm]
    rfl
  | cons byte left ih =>
    cases right with
    | nil => cases hlength
    | cons other right =>
      have hrest := ih (Nat.succ.inj hlength)
      have hbyte := Checksum.cpop_xor_mod_two byte.toBitVec other.toBitVec
      have hsplit : distance (byte :: left) (other :: right) =
          (byte.toBitVec ^^^ other.toBitVec).cpop.toNat + distance left right := rfl
      rw [hsplit, weight_cons, weight_cons]
      omega

@[simp]
theorem length_flip (bytes : Bytes) (bit : Nat) : (bytes.flip bit).length = bytes.length :=
  List.length_modify ..

theorem flip_cons_of_lt (byte : UInt8) (rest : Bytes) {bit : Nat} (hbit : bit < 8) :
    flip (byte :: rest) bit = (byte ^^^ 1 <<< UInt8.ofNat bit) :: rest := by
  rw [flip, Nat.div_eq_of_lt hbit, Nat.mod_eq_of_lt hbit, List.modify_zero_cons]

theorem flip_cons_of_le (byte : UInt8) (rest : Bytes) {bit : Nat} (hbit : 8 ≤ bit) :
    flip (byte :: rest) bit = byte :: flip rest (bit - 8) := by
  obtain ⟨bit, rfl⟩ := Nat.exists_eq_add_of_le' hbit
  rw [flip, Nat.add_div_right _ (by decide), List.modify_succ_cons, Nat.add_mod_right,
    Nat.add_sub_cancel, flip]

end Bytes

namespace Checksum

open Function

theorem absorb_eq (register : UInt16) (byte : UInt8) :
    absorb register byte = step^[8] (register ^^^ byte.toUInt16) := by
  simp only [absorb, iterate_succ_apply, iterate_zero, id]

theorem absorb_xor_left (register error : UInt16) (byte : UInt8) :
    absorb (register ^^^ error) byte = absorb register byte ^^^ step^[8] error := by
  rw [absorb_eq, absorb_eq, ← iterate_step_xor]
  ac_rfl

theorem absorb_xor_right (register : UInt16) (byte error : UInt8) :
    absorb register (byte ^^^ error) = absorb register byte ^^^ step^[8] error.toUInt16 := by
  rw [absorb_eq, absorb_eq, ← iterate_step_xor, UInt8.toUInt16_xor]
  ac_rfl

theorem foldl_absorb_xor (bytes : Bytes) (register error : UInt16) :
    bytes.foldl absorb (register ^^^ error) =
      bytes.foldl absorb register ^^^ step^[8 * bytes.length] error := by
  induction bytes generalizing register error with
  | nil => rfl
  | cons byte rest ih =>
    rw [List.foldl_cons, List.foldl_cons, absorb_xor_left, ih, ← iterate_add_apply]
    rfl

theorem absorb_injective (byte : UInt8) : Injective (absorb · byte) := by
  intro left right heq
  simp only [absorb_eq] at heq
  exact (UInt16.xor_left_inj _).mp (step_injective.iterate 8 heq)

theorem foldl_absorb_injective (bytes : Bytes) :
    Injective fun register => bytes.foldl absorb register := by
  induction bytes with
  | nil => exact injective_id
  | cons byte rest ih => exact ih.comp (absorb_injective byte)

theorem foldl_absorb_flip {bytes : Bytes} {bit : Nat} (hbit : bit < 8 * bytes.length)
    (register : UInt16) :
    (bytes.flip bit).foldl absorb register =
      bytes.foldl absorb register ^^^ step^[8 * bytes.length - bit] 1 := by
  induction bytes generalizing bit register with
  | nil => exact absurd hbit (Nat.not_lt_zero bit)
  | cons byte rest ih =>
    rw [List.length_cons] at hbit ⊢
    rcases Nat.lt_or_ge bit 8 with hlow | hhigh
    · have hbits : ∀ bit < 8,
          step^[8] (1 <<< UInt8.ofNat bit : UInt8).toUInt16 = step^[8 - bit] 1 := by
        decide
      have hcount : 8 * (rest.length + 1) - bit = 8 * rest.length + (8 - bit) := by omega
      rw [Bytes.flip_cons_of_lt byte rest hlow, List.foldl_cons, List.foldl_cons, absorb_xor_right,
        foldl_absorb_xor, hbits bit hlow, hcount, iterate_add_apply]
    · have hcount : 8 * (rest.length + 1) - bit = 8 * rest.length - (bit - 8) := by omega
      rw [Bytes.flip_cons_of_le byte rest hhigh, List.foldl_cons, List.foldl_cons,
        ih (by omega), hcount]

/-! ### Two bytes in a row -/

theorem step_shiftLeft_eight (byte : UInt8) : step^[8] (byte.toUInt16 <<< 8) = byte.toUInt16 := by
  have hlt := byte.toNat_lt
  have hshift : (byte.toUInt16 <<< 8).toNat = byte.toNat * 2 ^ 8 := by
    rw [UInt16.toNat_shiftLeft, UInt8.toNat_toUInt16, Nat.shiftLeft_eq]
    change byte.toNat * 2 ^ 8 % 2 ^ 16 = _
    omega
  apply UInt16.toNat_inj.mp
  rw [toNat_iterate_step (by rw [hshift, Nat.mul_mod_left]), hshift,
    Nat.mul_div_cancel _ (by decide), UInt8.toNat_toUInt16]

theorem eq_zero_of_toUInt16_eq_shiftLeft {low high : UInt8}
    (heq : low.toUInt16 = high.toUInt16 <<< 8) : low = 0 ∧ high = 0 := by
  have hlow := low.toNat_lt
  have hhigh := high.toNat_lt
  have hnat : low.toNat = high.toNat * 2 ^ 8 % 2 ^ 16 := by
    have h := congrArg UInt16.toNat heq
    rw [UInt16.toNat_shiftLeft, UInt8.toNat_toUInt16, UInt8.toNat_toUInt16, Nat.shiftLeft_eq] at h
    exact h
  constructor
  · apply UInt8.toNat_inj.mp
    rw [UInt8.toNat_zero]
    omega
  · apply UInt8.toNat_inj.mp
    rw [UInt8.toNat_zero]
    omega

theorem absorb_absorb_inj {register : UInt16} {first second otherFirst otherSecond : UInt8}
    (heq : absorb (absorb register first) second =
      absorb (absorb register otherFirst) otherSecond) :
    first = otherFirst ∧ second = otherSecond := by
  have hfirst : absorb register first =
      absorb register otherFirst ^^^ step^[8] (otherFirst ^^^ first).toUInt16 := by
    rw [← absorb_xor_right, ← UInt8.xor_assoc, UInt8.xor_self, UInt8.zero_xor]
  rw [absorb_eq, absorb_eq (absorb register otherFirst)] at heq
  have hmixed := step_injective.iterate 8 heq
  rw [hfirst, UInt16.xor_assoc, UInt16.xor_right_inj] at hmixed
  have herror : step^[8] (otherFirst ^^^ first).toUInt16 = (otherSecond ^^^ second).toUInt16 := by
    rw [UInt8.toUInt16_xor otherSecond, ← hmixed, UInt16.xor_assoc, UInt16.xor_self,
      UInt16.xor_zero]
  rw [← step_shiftLeft_eight (otherSecond ^^^ second)] at herror
  obtain ⟨hlow, hhigh⟩ := eq_zero_of_toUInt16_eq_shiftLeft (step_injective.iterate 8 herror)
  exact ⟨(UInt8.xor_eq_zero_iff.mp hlow).symm, (UInt8.xor_eq_zero_iff.mp hhigh).symm⟩

theorem eq_of_foldl_absorb_eq {left right : Bytes} {register : UInt16} (position : Nat)
    (hlength : left.length = right.length) (hinside : position + 2 ≤ left.length)
    (hsame : ∀ index, index ≠ position → index ≠ position + 1 → left[index]? = right[index]?)
    (heq : left.foldl absorb register = right.foldl absorb register) : left = right := by
  induction position generalizing left right register with
  | zero =>
    match left, right, hlength, hinside with
    | first :: second :: left, otherFirst :: otherSecond :: right, _, _ =>
      have hrest : left = right := by
        apply List.ext_getElem?
        intro index
        exact hsame (index + 2) (by omega) (by omega)
      subst hrest
      simp only [List.foldl_cons] at heq
      obtain ⟨hfirst, hsecond⟩ := absorb_absorb_inj (foldl_absorb_injective left heq)
      rw [hfirst, hsecond]
  | succ position ih =>
    match left, right, hlength, hinside with
    | byte :: left, other :: right, hlength, hinside =>
      obtain rfl : byte = other := Option.some.inj (hsame 0 (by omega) (by omega))
      rw [List.foldl_cons, List.foldl_cons] at heq
      have hrest : left = right := by
        apply ih (Nat.succ.inj hlength) (Nat.le_of_succ_le_succ hinside) _ heq
        intro index hindex hnext
        exact hsame (index + 1) (by omega) (by omega)
      rw [hrest]

/-! ### A checksum behind its own bytes -/

theorem eq_shiftLeft_xor (register : UInt16) :
    register = (UInt8.ofNat (register.toNat / 256)).toUInt16 <<< 8 ^^^
      (UInt8.ofNat register.toNat).toUInt16 := by
  have hlt := register.toNat_lt
  apply UInt16.toNat_inj.mp
  rw [UInt16.toNat_xor, UInt16.toNat_shiftLeft, UInt8.toNat_toUInt16, UInt8.toNat_toUInt16,
    UInt8.toNat_ofNat', UInt8.toNat_ofNat', Nat.shiftLeft_eq]
  change register.toNat = register.toNat / 256 % 2 ^ 8 * 2 ^ 8 % 2 ^ 16 ^^^ register.toNat % 2 ^ 8
  have hhigh : register.toNat / 256 % 2 ^ 8 * 2 ^ 8 % 2 ^ 16 = register.toNat / 256 * 2 ^ 8 := by
    omega
  have hlow : (register.toNat / 256 * 2 ^ 8 ^^^ register.toNat % 2 ^ 8) % 2 ^ 8 =
      register.toNat % 2 ^ 8 := by
    rw [Nat.xor_mod_two_pow, Nat.mul_mod_left, Nat.zero_xor, Nat.mod_mod]
  have htop : (register.toNat / 256 * 2 ^ 8 ^^^ register.toNat % 2 ^ 8) / 2 ^ 8 =
      register.toNat / 256 := by
    rw [Nat.xor_div_two_pow, Nat.mul_div_cancel _ (by decide), Nat.mod_div_self, Nat.xor_zero]
  rw [hhigh]
  omega

theorem foldl_absorb_own (register : UInt16) :
    (Bytes.ofNatLE 2 register.toNat).foldl absorb register = 0 := by
  have hlow : absorb register (UInt8.ofNat register.toNat) =
      (UInt8.ofNat (register.toNat / 256)).toUInt16 := by
    rw [absorb_eq, ← step_shiftLeft_eight (UInt8.ofNat (register.toNat / 256))]
    congr 1
    conv => lhs; lhs; rw [eq_shiftLeft_xor register]
    rw [UInt16.xor_assoc, UInt16.xor_self, UInt16.xor_zero]
  change absorb (absorb register (UInt8.ofNat register.toNat))
    (UInt8.ofNat (register.toNat / 256)) = 0
  rw [hlow, absorb_eq, UInt16.xor_self]
  rfl

theorem weight_foldl_absorb_mod_two (bytes : Bytes) (register : UInt16) :
    weight (bytes.foldl absorb register) % 2 = (weight register + bytes.weight) % 2 := by
  induction bytes generalizing register with
  | nil => rfl
  | cons byte rest ih =>
    have hbyte := weight_absorb_mod_two register byte
    rw [List.foldl_cons, ih, Bytes.weight_cons]
    omega

end Checksum

end SensorGateway
