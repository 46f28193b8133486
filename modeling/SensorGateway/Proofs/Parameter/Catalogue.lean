import Mathlib.Data.List.Basic
import Mathlib.Data.List.Nodup
import SensorGateway.Parameter.Catalogue

/-!
# Two ways into the catalogue

A parameter is found under its type code or under its name. The parts of every type code fit the
bits they are packed into, and no two parameters share a type code or a name. So either way leads to
the one parameter that was asked for (`lookup?_eq_some_iff`, `named?_eq_some_iff`), and what is
found under a name is found again under its type code.
-/

namespace SensorGateway

namespace ParameterKey

/-- The parts are small enough to be packed into a type code. -/
structure Fits (key : ParameterKey) : Prop where
  feature_lt : key.feature.toNat < 8
  code_lt : key.code.toNat < 2048

instance (key : ParameterKey) : Decidable key.Fits :=
  decidable_of_iff (key.feature.toNat < 8 ∧ key.code.toNat < 2048)
    ⟨fun h => ⟨h.1, h.2⟩, fun h => ⟨h.feature_lt, h.code_lt⟩⟩

variable {key : ParameterKey} {typeCode : UInt16}

theorem typeCode_mod (key : ParameterKey) : key.typeCode % 0x4000 = key.typeCode := by
  apply UInt16.toNat_inj.mp
  simp [ParameterKey.typeCode]
  omega

/-- Packing and unpacking undo each other, bits above the fourteenth ignored. -/
theorem Fits.eq_ofTypeCode_iff (h : key.Fits) :
    key = ofTypeCode typeCode ↔ key.typeCode = typeCode % 0x4000 := by
  obtain ⟨feature, code⟩ := key
  obtain ⟨hfeature, hcode⟩ := h
  have hlt := typeCode.toNat_lt
  rw [ofTypeCode, mk.injEq, ← UInt8.toNat_inj, ← UInt16.toNat_inj, ← UInt16.toNat_inj]
  simp [ParameterKey.typeCode] at *
  omega

end ParameterKey

namespace Catalogue

variable {parameter : Parameter} {typeCode : UInt16} {name : String}

theorem fits_of_mem (hmem : parameter ∈ parameters) : parameter.key.Fits := by
  have hall : ∀ parameter ∈ parameters, parameter.key.Fits := by decide +kernel
  exact hall parameter hmem

theorem nodup_map_typeCode : (parameters.map Parameter.typeCode).Nodup := by
  have hnumbers : (parameters.map fun parameter => parameter.typeCode.toNat).Nodup := by
    decide +kernel
  refine List.Nodup.of_map UInt16.toNat ?_
  rwa [List.map_map]

-- the names differ already when their bytes are read as numbers, and numbers are compared fast
theorem nodup_map_name : (parameters.map Parameter.name).Nodup := by
  let number (name : String) : Nat := Bytes.toNatLE name.toUTF8.data.toList
  have hnumbers : (parameters.map fun parameter => number parameter.name).Nodup := by
    decide +kernel
  refine List.Nodup.of_map number ?_
  rwa [List.map_map]

/-- A search for something that identifies the members of a list finds the one that has it. -/
theorem find?_eq_some_iff {α β : Type} {list : List α} {identify : α → β}
    (hnodup : (list.map identify).Nodup) {key : β} {test : α → Bool}
    (htest : ∀ member ∈ list, test member = true ↔ identify member = key) {member : α} :
    list.find? test = some member ↔ member ∈ list ∧ identify member = key := by
  constructor
  · intro hfind
    have hmem := List.mem_of_find?_eq_some hfind
    exact ⟨hmem, (htest member hmem).mp (List.find?_some hfind)⟩
  · rintro ⟨hmem, hkey⟩
    obtain ⟨found, hfind⟩ : ∃ found, list.find? test = some found :=
      Option.isSome_iff_exists.mp
        (List.find?_isSome.mpr ⟨member, hmem, (htest member hmem).mpr hkey⟩)
    have hfound := List.mem_of_find?_eq_some hfind
    have heq : identify found = identify member :=
      ((htest found hfound).mp (List.find?_some hfind)).trans hkey.symm
    rw [hfind, List.inj_on_of_nodup_map hnodup hfound hmem heq]

theorem lookup?_eq_some_iff :
    lookup? typeCode = some parameter ↔
      parameter ∈ parameters ∧ parameter.typeCode = typeCode % 0x4000 := by
  refine find?_eq_some_iff nodup_map_typeCode fun member hmem => ?_
  rw [beq_iff_eq]
  exact (fits_of_mem hmem).eq_ofTypeCode_iff

theorem lookup?_eq_none_iff :
    lookup? typeCode = none ↔
      ∀ parameter ∈ parameters, parameter.typeCode ≠ typeCode % 0x4000 := by
  rw [Option.eq_none_iff_forall_ne_some]
  simp only [ne_eq, lookup?_eq_some_iff, not_and]

theorem named?_eq_some_iff :
    named? name = some parameter ↔ parameter ∈ parameters ∧ parameter.name = name := by
  refine find?_eq_some_iff nodup_map_name fun member _ => ?_
  rw [beq_iff_eq]

theorem lookup?_typeCode (hmem : parameter ∈ parameters) :
    lookup? parameter.typeCode = some parameter :=
  lookup?_eq_some_iff.mpr ⟨hmem, (ParameterKey.typeCode_mod parameter.key).symm⟩

end Catalogue

end SensorGateway
