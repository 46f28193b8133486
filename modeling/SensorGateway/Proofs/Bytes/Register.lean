import Mathlib.Data.Nat.Bitwise
import Mathlib.Dynamics.PeriodicPts.Defs
import Mathlib.Tactic.NormNum.Prime
import SensorGateway.Bytes.Checksum

/-!
# The register of the checksum

The register holds a polynomial over the field with two elements, the constant term in its highest
bit, and a step multiplies it by `x` modulo the generator. So a step is linear and loses nothing.
The generator is `(x + 1)(x¹⁵ + x + 1)`. Its first factor makes a step keep the parity of the number
of ones (`weight_step_mod_two`), and its second one makes the powers of `x` come back to `1` after
`32767` steps and not before (`minimalPeriod_unit`).
-/

namespace SensorGateway.Checksum

open Function

/-! ### A step is linear -/

theorem mod_two_eq_one_iff (register : UInt16) : register % 2 = 1 ↔ register.toNat % 2 = 1 := by
  rw [← UInt16.toNat_inj, UInt16.toNat_mod]
  rfl

theorem toNat_shiftRight_one (register : UInt16) : (register >>> 1).toNat = register.toNat / 2 := by
  simp [Nat.shiftRight_one]

theorem step_of_even {register : UInt16} (heven : register.toNat % 2 = 0) :
    step register = register >>> 1 := by
  have hlow := mt (mod_two_eq_one_iff register).mp (by omega)
  rw [step, if_neg hlow]

theorem step_of_odd {register : UInt16} (hodd : register.toNat % 2 = 1) :
    step register = register >>> 1 ^^^ generator := by
  rw [step, if_pos ((mod_two_eq_one_iff register).mpr hodd)]

theorem step_xor (left right : UInt16) : step (left ^^^ right) = step left ^^^ step right := by
  have hparity : (left ^^^ right).toNat % 2 = (left.toNat + right.toNat) % 2 := by
    rw [UInt16.toNat_xor, Nat.xor_mod_two_eq]
  rcases Nat.mod_two_eq_zero_or_one left.toNat with hleft | hleft <;>
    rcases Nat.mod_two_eq_zero_or_one right.toNat with hright | hright
  · rw [step_of_even (by omega), step_of_even hleft, step_of_even hright, UInt16.shiftRight_xor]
  · rw [step_of_odd (by omega), step_of_even hleft, step_of_odd hright, UInt16.shiftRight_xor]
    ac_rfl
  · rw [step_of_odd (by omega), step_of_odd hleft, step_of_even hright, UInt16.shiftRight_xor]
    ac_rfl
  · rw [step_of_even (by omega), step_of_odd hleft, step_of_odd hright]
    -- the generator is added twice
    calc (left ^^^ right) >>> 1
        = left >>> 1 ^^^ right >>> 1 ^^^ (generator ^^^ generator) := by
          rw [UInt16.xor_self, UInt16.xor_zero, UInt16.shiftRight_xor]
      _ = left >>> 1 ^^^ generator ^^^ (right >>> 1 ^^^ generator) := by ac_rfl

theorem iterate_step_xor (count : Nat) (left right : UInt16) :
    step^[count] (left ^^^ right) = step^[count] left ^^^ step^[count] right := by
  induction count generalizing left right with
  | zero => rfl
  | succ count ih =>
    rw [iterate_succ_apply, step_xor, ih]
    rfl

/-! ### Nothing is lost -/

theorem eq_zero_of_step_eq_zero {register : UInt16} (hzero : step register = 0) : register = 0 := by
  have hlt := register.toNat_lt
  have hhalf := toNat_shiftRight_one register
  rcases Nat.mod_two_eq_zero_or_one register.toNat with heven | hodd
  · rw [step_of_even heven] at hzero
    rw [hzero, UInt16.toNat_zero] at hhalf
    apply UInt16.toNat_inj.mp
    rw [UInt16.toNat_zero]
    omega
  · rw [step_of_odd hodd, UInt16.xor_eq_zero_iff] at hzero
    rw [hzero] at hhalf
    have htop : generator.toNat = 0xA001 := rfl
    omega

theorem step_injective : Injective step := by
  intro left right heq
  apply UInt16.xor_eq_zero_iff.mp
  apply eq_zero_of_step_eq_zero
  rw [step_xor, heq, UInt16.xor_self]

theorem toNat_iterate_step {count : Nat} {register : UInt16}
    (hclear : register.toNat % 2 ^ count = 0) :
    (step^[count] register).toNat = register.toNat / 2 ^ count := by
  induction count generalizing register with
  | zero => simp
  | succ count ih =>
    have heven : register.toNat % 2 = 0 := by
      rw [Nat.pow_succ', Nat.mod_mul] at hclear
      omega
    have hrest : (step register).toNat % 2 ^ count = 0 := by
      rw [step_of_even heven, toNat_shiftRight_one]
      rw [Nat.pow_succ', Nat.mod_mul] at hclear
      have := Nat.eq_zero_of_add_eq_zero_left hclear
      omega
    rw [iterate_succ_apply, ih hrest, step_of_even heven, toNat_shiftRight_one,
      Nat.div_div_eq_div_mul, Nat.pow_succ']

/-! ### Parity -/

theorem cpop_xor_mod_two {width : Nat} (left right : BitVec width) :
    (left ^^^ right).cpop.toNat % 2 = (left.cpop.toNat + right.cpop.toNat) % 2 := by
  induction width with
  | zero => simp [BitVec.of_length_zero]
  | succ width ih =>
    have hrest := ih (left.setWidth width) (right.setWidth width)
    rw [← BitVec.cons_msb_setWidth left, ← BitVec.cons_msb_setWidth right, BitVec.cons_xor_cons]
    simp only [BitVec.toNat_cpop_cons]
    cases left.msb <;> cases right.msb <;> simp <;> omega

def weight (register : UInt16) : Nat :=
  register.toBitVec.cpop.toNat

theorem weight_xor_mod_two (left right : UInt16) :
    weight (left ^^^ right) % 2 = (weight left + weight right) % 2 :=
  cpop_xor_mod_two left.toBitVec right.toBitVec

theorem weight_shiftRight_one (register : UInt16) :
    weight (register >>> 1) + register.toNat % 2 = weight register := by
  have hlt := register.toNat_lt
  have hconcat : register.toBitVec =
      (BitVec.ofNat 15 (register.toNat / 2)).concat (register.toNat % 2 == 1) := by
    apply BitVec.eq_of_toNat_eq
    rw [BitVec.toNat_concat, BitVec.toNat_ofNat, UInt16.toNat_toBitVec]
    rcases Nat.mod_two_eq_zero_or_one register.toNat with h | h <;> simp [h] <;> omega
  have hshift : (register >>> 1).toBitVec =
      (BitVec.ofNat 15 (register.toNat / 2)).setWidth 16 := by
    apply BitVec.eq_of_toNat_eq
    rw [UInt16.toNat_toBitVec, toNat_shiftRight_one, BitVec.toNat_setWidth, BitVec.toNat_ofNat]
    omega
  unfold weight
  rw [hshift, BitVec.toNat_cpop_setWidth_eq_of_le (by decide), hconcat, BitVec.toNat_cpop_concat]
  rcases Nat.mod_two_eq_zero_or_one register.toNat with h | h <;> simp [h, Nat.add_comm]

/-- A step takes a one away if and only if it adds the generator, which has three ones. -/
theorem weight_step_mod_two (register : UInt16) :
    weight (step register) % 2 = weight register % 2 := by
  have hshift := weight_shiftRight_one register
  have hgenerator : weight generator = 3 := by decide
  rcases Nat.mod_two_eq_zero_or_one register.toNat with heven | hodd
  · rw [step_of_even heven]
    omega
  · rw [step_of_odd hodd, weight_xor_mod_two]
    omega

theorem weight_absorb_mod_two (register : UInt16) (byte : UInt8) :
    weight (absorb register byte) % 2 = (weight register + byte.toBitVec.cpop.toNat) % 2 := by
  have hbyte : weight byte.toUInt16 = byte.toBitVec.cpop.toNat := by
    rw [weight, UInt8.toBitVec_toUInt16, BitVec.toNat_cpop_setWidth_eq_of_le (by decide)]
  unfold absorb
  simp only [weight_step_mod_two, weight_xor_mod_two, hbyte]

/-! ### Powers of the step -/

/-- The register of the polynomial `1`. -/
def unit : UInt16 := 0x8000

/-- The product of two polynomials modulo the generator, of the second one as many bits as told. -/
def product (factor : UInt16) : Nat → UInt16 → UInt16
  | 0, _ => 0
  | bits + 1, register =>
    (if unit ≤ register then factor else 0) ^^^ step (product factor bits (register <<< 1))

theorem eq_unit_xor_step (register : UInt16) :
    register = (if unit ≤ register then unit else 0) ^^^ step (register <<< 1) := by
  have hlt := register.toNat_lt
  have hdouble : (register <<< 1).toNat = register.toNat * 2 % 65536 := by
    simp [Nat.shiftLeft_eq]
  have hhalf : (step (register <<< 1)).toNat = register.toNat % 2 ^ 15 := by
    rw [step_of_even (by omega), toNat_shiftRight_one]
    omega
  have htop : (unit ≤ register) ↔ 2 ^ 15 ≤ register.toNat := UInt16.le_iff_toNat_le
  apply UInt16.toNat_inj.mp
  rw [UInt16.toNat_xor, hhalf]
  split_ifs with h
  · rw [htop] at h
    have hunit : unit.toNat = 2 ^ 15 := rfl
    have hlow : (2 ^ 15 ^^^ register.toNat % 2 ^ 15) % 2 ^ 15 = register.toNat % 2 ^ 15 := by
      rw [Nat.xor_mod_two_pow, Nat.mod_self, Nat.zero_xor, Nat.mod_mod]
    have hhigh : (2 ^ 15 ^^^ register.toNat % 2 ^ 15) / 2 ^ 15 = 1 := by
      rw [Nat.xor_div_two_pow, Nat.div_self (by decide), Nat.mod_div_self, Nat.xor_zero]
    rw [hunit]
    omega
  · rw [htop] at h
    rw [UInt16.toNat_zero, Nat.zero_xor]
    omega

theorem iterate_double (count : Nat) (register : UInt16) :
    ((fun word : UInt16 => word <<< 1)^[count] register).toNat =
      register.toNat * 2 ^ count % 2 ^ 16 := by
  induction count with
  | zero => simp
  | succ count ih =>
    rw [iterate_succ_apply', UInt16.toNat_shiftLeft, ih, Nat.shiftLeft_eq]
    change _ * 2 % 2 ^ 16 = _
    rw [Nat.mod_mul_mod, Nat.mul_assoc, ← Nat.pow_succ]

section Linear

variable {f : UInt16 → UInt16} (hxor : ∀ left right, f (left ^^^ right) = f left ^^^ f right)
  (hstep : Function.Commute f step)

include hxor in
theorem apply_zero_of_linear : f 0 = 0 := by
  have h := hxor 0 0
  rwa [UInt16.xor_self, UInt16.xor_self] at h

include hxor hstep

theorem apply_eq_product_of_double (bits : Nat) {register : UInt16}
    (hnone : (fun word : UInt16 => word <<< 1)^[bits] register = 0) :
    f register = product (f unit) bits register := by
  induction bits generalizing register with
  | zero =>
    rw [iterate_zero, id] at hnone
    rw [hnone, apply_zero_of_linear hxor]
    rfl
  | succ bits ih =>
    rw [iterate_succ_apply] at hnone
    calc f register
        = f ((if unit ≤ register then unit else 0) ^^^ step (register <<< 1)) := by
          rw [← eq_unit_xor_step]
      _ = (if unit ≤ register then f unit else 0) ^^^ step (f (register <<< 1)) := by
          rw [hxor, hstep.eq, apply_ite f, apply_zero_of_linear hxor]
      _ = product (f unit) (bits + 1) register := by
          rw [ih hnone]
          rfl

/-- A linear map that commutes with the step multiplies by its value at `1`. -/
theorem apply_eq_product (register : UInt16) : f register = product (f unit) 16 register := by
  apply apply_eq_product_of_double hxor hstep
  apply UInt16.toNat_inj.mp
  rw [iterate_double, Nat.mul_mod_left, UInt16.toNat_zero]

end Linear

theorem iterate_step_eq_product (count : Nat) (register : UInt16) :
    step^[count] register = product (step^[count] unit) 16 register :=
  apply_eq_product (iterate_step_xor count) ((Function.Commute.refl step).iterate_left count)
    register

/-- The number with these binary digits, the lowest one first. -/
def exponent : List Bool → Nat
  | [] => 0
  | digit :: digits => 2 * exponent digits + digit.toNat

/-- The power of the polynomial `x` with this exponent, by squaring. -/
def power : List Bool → UInt16
  | [] => unit
  | digit :: digits =>
    let square := product (power digits) 16 (power digits)
    if digit then step square else square

theorem power_eq (digits : List Bool) : power digits = step^[exponent digits] unit := by
  induction digits with
  | nil => rfl
  | cons digit digits ih =>
    have hsquare : product (power digits) 16 (power digits) = step^[2 * exponent digits] unit := by
      rw [Nat.two_mul, iterate_add_apply, ← ih, iterate_step_eq_product (exponent digits), ← ih]
    cases digit
    · exact hsquare
    · exact (congrArg step hsquare).trans (iterate_succ_apply' step _ unit).symm

theorem isPeriodicPt_unit_iff (digits : List Bool) :
    IsPeriodicPt step (exponent digits) unit ↔ power digits = unit := by
  rw [power_eq]
  rfl

theorem eq_of_dvd_of_not_dvd_div {divisor number : Nat} (hdvd : divisor ∣ number)
    (hpos : 0 < number)
    (hprime : ∀ p : Nat, p.Prime → p ∣ number → ¬ divisor ∣ number / p) : divisor = number := by
  obtain ⟨cofactor, rfl⟩ := hdvd
  have hcofactor : cofactor = 1 := by
    by_contra hne
    obtain ⟨p, hp, rest, rfl⟩ := Nat.exists_prime_and_dvd hne
    apply hprime p hp ((Nat.dvd_mul_right p rest).mul_left divisor)
    rw [Nat.mul_left_comm, Nat.mul_div_cancel_left _ hp.pos]
    exact Nat.dvd_mul_right divisor rest
  rw [hcofactor, Nat.mul_one]

/-- Leaving out any of the prime factors `7`, `31` and `151` leaves no period. -/
theorem minimalPeriod_unit : minimalPeriod step unit = 32767 := by
  have hperiod : IsPeriodicPt step 32767 unit :=
    (isPeriodicPt_unit_iff (List.replicate 15 true)).mpr (by decide +kernel)
  have hseven : ¬ IsPeriodicPt step 4681 unit :=
    mt (isPeriodicPt_unit_iff [true, false, false, true, false, false, true, false, false, true,
      false, false, true]).mp (by decide +kernel)
  have hthirtyOne : ¬ IsPeriodicPt step 1057 unit :=
    mt (isPeriodicPt_unit_iff [true, false, false, false, false, true, false, false, false, false,
      true]).mp (by decide +kernel)
  have hlast : ¬ IsPeriodicPt step 217 unit :=
    mt (isPeriodicPt_unit_iff [true, false, false, true, true, false, true, true]).mp
      (by decide +kernel)
  rw [isPeriodicPt_iff_minimalPeriod_dvd] at hseven hthirtyOne hlast
  apply eq_of_dvd_of_not_dvd_div hperiod.minimalPeriod_dvd (by decide)
  intro p hp hdvd
  have hfactors : (32767 : Nat) = 7 * 31 * 151 := rfl
  rw [hfactors, hp.dvd_mul, hp.dvd_mul, Nat.prime_dvd_prime_iff_eq hp (by norm_num),
    Nat.prime_dvd_prime_iff_eq hp (by norm_num), Nat.prime_dvd_prime_iff_eq hp (by norm_num)]
    at hdvd
  rcases hdvd with (rfl | rfl) | rfl
  · exact hseven
  · exact hthirtyOne
  · exact hlast

theorem iterate_step_one_eq_iff {left right : Nat} :
    step^[left] 1 = step^[right] 1 ↔ left % 32767 = right % 32767 := by
  have hone : step^[15] unit = 1 := by decide +kernel
  have hperiodic : unit ∈ periodicPts step := by
    apply minimalPeriod_pos_iff_mem_periodicPts.mp
    rw [minimalPeriod_unit]
    decide
  have hperiod : minimalPeriod step 1 = 32767 := by
    rw [← hone, minimalPeriod_apply_iterate hperiodic, minimalPeriod_unit]
  rw [← iterate_mod_minimalPeriod_eq (n := left), ← iterate_mod_minimalPeriod_eq (n := right),
    hperiod]
  apply iterate_eq_iterate_iff_of_lt_minimalPeriod <;> rw [hperiod] <;>
    exact Nat.mod_lt _ (by decide)

end SensorGateway.Checksum
