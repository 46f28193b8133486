import Mathlib.Data.List.Basic
import Mathlib.Data.List.TakeWhile
import SensorGateway.Envelope.Identity

/-!
# Canonical text is read back

Whatever is written as digits contains no blank and nothing but digits of one byte each, so that
neither the trimming of a text nor the checks before its digits are read can get in the way.
-/

namespace SensorGateway

theorem Text.trim_eq_self {text : List Char} (h : ∀ c ∈ text, isBlank c = false) :
    trim text = text := by
  have hkeep : ∀ other : List Char, (∀ c ∈ other, isBlank c = false) →
      other.dropWhile isBlank = other := by
    intro other hother
    cases other with
    | nil => rfl
    | cons c rest =>
      exact List.dropWhile_cons_of_neg (by simp [hother c List.mem_cons_self])
  have hreverse : ∀ c ∈ text.reverse, isBlank c = false := by simpa using h
  rw [trim, hkeep text h, hkeep text.reverse hreverse, List.reverse_reverse]

namespace Hex

/-- What a character has to be like in order to be read back as a digit. -/
structure Spells (c : Char) (value : UInt8) : Prop where
  digitValue?_eq : digitValue? c = some value
  isBlank_eq : Text.isBlank c = false
  utf8Size_eq : c.utf8Size = 1

theorem spells_digitChar {value : UInt8} (h : value < 16) : Spells (digitChar value) value := by
  have hsixteen : ∀ n < 16, digitValue? (digitChar (UInt8.ofNat n)) = some (UInt8.ofNat n) ∧
      Text.isBlank (digitChar (UInt8.ofNat n)) = false ∧
        (digitChar (UInt8.ofNat n)).utf8Size = 1 := by
    decide
  obtain ⟨hvalue, hblank, hsize⟩ := hsixteen value.toNat h
  rw [UInt8.ofNat_toNat] at hvalue hblank hsize
  exact ⟨hvalue, hblank, hsize⟩

theorem high_lt (byte : UInt8) : byte / 16 < 16 := by
  rw [UInt8.lt_iff_toNat_lt, UInt8.toNat_div]
  have hlt := byte.toNat_lt
  change byte.toNat / 16 < 16
  omega

theorem low_lt (byte : UInt8) : byte % 16 < 16 := by
  rw [UInt8.lt_iff_toNat_lt, UInt8.toNat_mod]
  exact Nat.mod_lt _ (by decide)

theorem spells_high (byte : UInt8) : Spells (digitChar (byte / 16)) (byte / 16) :=
  spells_digitChar (high_lt byte)

theorem spells_low (byte : UInt8) : Spells (digitChar (byte % 16)) (byte % 16) :=
  spells_digitChar (low_lt byte)

theorem digits_cons (byte : UInt8) (rest : Bytes) :
    digits (byte :: rest) = digitChar (byte / 16) :: digitChar (byte % 16) :: digits rest := rfl

theorem exists_spells_of_mem {bytes : Bytes} {c : Char} (h : c ∈ digits bytes) :
    ∃ value, Spells c value := by
  obtain ⟨byte, _, hdigit⟩ := List.mem_flatMap.mp h
  rcases List.mem_pair.mp hdigit with rfl | rfl
  · exact ⟨_, spells_high byte⟩
  · exact ⟨_, spells_low byte⟩

theorem utf8Length_digits (bytes : Bytes) : utf8Length (digits bytes) = 2 * bytes.length := by
  induction bytes with
  | nil => rfl
  | cons byte rest ih =>
    rw [digits_cons, utf8Length, utf8Length, ih, (spells_high byte).utf8Size_eq,
      (spells_low byte).utf8Size_eq, List.length_cons]
    omega

theorem halves_eq (byte : UInt8) : byte / 16 * 16 + byte % 16 = byte := by
  apply UInt8.toNat_inj.mp
  have hlt := byte.toNat_lt
  simp
  omega

theorem pairs_filterMap_digits (bytes : Bytes) :
    pairs ((digits bytes).filterMap digitValue?) = bytes := by
  induction bytes with
  | nil => rfl
  | cons byte rest ih =>
    rw [digits_cons, List.filterMap_cons_some (spells_high byte).digitValue?_eq,
      List.filterMap_cons_some (spells_low byte).digitValue?_eq, pairs, ih, halves_eq]

theorem decodeChars_digits {bytes : Bytes} (hbytes : bytes ≠ []) :
    decodeChars (digits bytes) = .ok bytes := by
  have hstrip : Text.stripBlanks (digits bytes) = digits bytes := by
    apply List.filter_eq_self.mpr
    intro c hc
    obtain ⟨value, hspells⟩ := exists_spells_of_mem hc
    rw [hspells.isBlank_eq, Bool.not_false]
  have hsome : (digits bytes).isEmpty = false := by
    cases bytes with
    | nil => exact absurd rfl hbytes
    | cons byte rest => rfl
  have heven : utf8Length (digits bytes) % 2 ≠ 1 := by
    rw [utf8Length_digits]
    omega
  have hdigits : (digits bytes).dropWhile isDigit = [] := by
    apply List.dropWhile_eq_nil_iff.mpr
    intro c hc
    obtain ⟨value, hspells⟩ := exists_spells_of_mem hc
    rw [isDigit, hspells.digitValue?_eq, Option.isSome_some]
  rw [decodeChars, hstrip, decodeDigits, hsome, if_neg Bool.false_ne_true, if_neg heven, hdigits]
  exact congrArg Except.ok (pairs_filterMap_digits bytes)

end Hex

namespace Identity

theorem parse_toHex (identity : Identity) : parse identity.toHex = .ok identity := by
  have htrim : Text.trim (Hex.digits identity.bytes) = Hex.digits identity.bytes := by
    apply Text.trim_eq_self
    intro c hc
    obtain ⟨value, hspells⟩ := Hex.exists_spells_of_mem hc
    exact hspells.isBlank_eq
  have hbytes : identity.bytes ≠ [] := by
    intro hnil
    have hlength := identity.length_bytes
    rw [hnil] at hlength
    cases hlength
  rw [parse, toHex, Hex.encode, String.toList_ofList, htrim, Hex.decodeChars_digits hbytes]
  exact ofBytes_eq_ok_iff.mpr rfl

end Identity

end SensorGateway
