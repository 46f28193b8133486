import Mathlib.Data.List.GetD
import SensorGateway.Parameter.Value
import SensorGateway.Proofs.Bytes.Chunks

/-!
# What the data of a value says

Data of a kind is cut into elements of one width, and an element is a word, low byte first. A value
keeps the kind and every word (`words_read`), whatever the word stands for: signed numbers keep it
in two's complement, numbers in floating point as their bits. So nothing is lost. The data can be
written back from the value, and every value of the kind is what its own bytes say
(`decode_lossless`). Only the length has to be checked for that: once it is admissible every element
has all its bytes, and no byte is looked for where there is none (`readByPlace?_eq`).
-/

namespace SensorGateway

namespace Bytes

/-- The number in the first bytes, each of them looked up by its place; nothing if one of the places
lies behind the end. -/
def wordAt? (width : Nat) (bytes : Bytes) : Option Nat :=
  ((List.range width).mapM fun place => bytes[place]?).map toNatLE

theorem mapM_eq_some_map {α β : Type} {f : α → Option β} {g : α → β} {items : List α}
    (h : ∀ item ∈ items, f item = some (g item)) : items.mapM f = some (items.map g) := by
  induction items with
  | nil => rfl
  | cons item rest ih =>
    rw [List.forall_mem_cons] at h
    rw [List.mapM_cons, h.1, ih h.2]
    rfl

theorem wordAt?_eq {width : Nat} {bytes : Bytes} (hlength : bytes.length = width) :
    wordAt? width bytes = some (toNatLE bytes) := by
  have hplaces : ∀ place ∈ List.range width, bytes[place]? = some (bytes.getD place 0) := by
    intro place hplace
    have hlt : place < bytes.length := hlength ▸ List.mem_range.mp hplace
    rw [List.getD_eq_getElem _ _ hlt, List.getElem?_eq_getElem hlt]
  have hbytes : (List.range width).map (fun place => bytes.getD place 0) = bytes := by
    apply List.ext_getElem
    · rw [List.length_map, List.length_range, hlength]
    · intro place _ hplace
      rw [List.getElem_map, List.getElem_range, List.getD_eq_getElem _ _ hplace]
  rw [wordAt?, mapM_eq_some_map hplaces, hbytes]
  rfl

end Bytes

namespace Value

/-- The kind of a value; those that the gateway records itself are of none. -/
def kind? : Value → Option ValueKind
  | u8 _ => some .u8
  | u16 _ => some .u16
  | u32 _ => some .u32
  | i16 _ => some .i16
  | f32 _ => some .f32
  | u16Array _ => some .u16Array
  | u32Array _ => some .u32Array
  | i16Array _ => some .i16Array
  | f32Array _ => some .f32Array
  | i64 _ => none
  | text _ => none

/-- The word of a signed number. -/
def twosComplement (value : Int16) : Nat :=
  (value.toInt % 0x10000).toNat

def words : Value → List Nat
  | u8 value => [value.toNat]
  | u16 value => [value.toNat]
  | u32 value => [value.toNat]
  | i16 value => [twosComplement value]
  | f32 word => [word.toNat]
  | u16Array values => values.map UInt16.toNat
  | u32Array values => values.map UInt32.toNat
  | i16Array values => values.map twosComplement
  | f32Array words => words.map UInt32.toNat
  | i64 _ => []
  | text _ => []

theorem twosComplement_eq (value : Int16) : twosComplement value = value.toUInt16.toNat := by
  have hlt := value.toUInt16.toNat_lt
  have hint : value.toInt = (value.toUInt16.toNat : Int).bmod 65536 := by
    rw [← Int16.toInt_toBitVec, BitVec.toInt_eq_toNat_bmod, ← Int16.toBitVec_toUInt16]
    rfl
  have hmod := Int.bmod_emod (x := (value.toUInt16.toNat : Int)) (m := 65536)
  rw [twosComplement, hint]
  omega

theorem twosComplement_toInt16 (word : UInt16) : twosComplement word.toInt16 = word.toNat := by
  rw [twosComplement_eq, UInt16.toUInt16_toInt16]

theorem twosComplement_injective : Function.Injective twosComplement := by
  intro left right h
  rw [twosComplement_eq, twosComplement_eq, UInt16.toNat_inj] at h
  rw [← Int16.toInt16_toUInt16 left, h, Int16.toInt16_toUInt16]

variable {kind : ValueKind} {value other : Value}

/-- Kind and words leave no choice. -/
theorem eq_of_words (hkind : value.kind? = some kind) (hother : other.kind? = some kind)
    (hwords : value.words = other.words) : value = other := by
  have hu16 : Function.Injective UInt16.toNat := fun _ _ => UInt16.toNat_inj.mp
  have hu32 : Function.Injective UInt32.toNat := fun _ _ => UInt32.toNat_inj.mp
  cases value <;> cases hkind <;> cases other <;> cases hother
  case u8.refl.u8.refl => exact congrArg u8 (UInt8.toNat_inj.mp (List.singleton_inj.mp hwords))
  case u16.refl.u16.refl => exact congrArg u16 (hu16 (List.singleton_inj.mp hwords))
  case u32.refl.u32.refl => exact congrArg u32 (hu32 (List.singleton_inj.mp hwords))
  case i16.refl.i16.refl =>
    exact congrArg i16 (twosComplement_injective (List.singleton_inj.mp hwords))
  case f32.refl.f32.refl => exact congrArg f32 (hu32 (List.singleton_inj.mp hwords))
  case u16Array.refl.u16Array.refl => exact congrArg u16Array (hu16.list_map hwords)
  case u32Array.refl.u32Array.refl => exact congrArg u32Array (hu32.list_map hwords)
  case i16Array.refl.i16Array.refl =>
    exact congrArg i16Array (twosComplement_injective.list_map hwords)
  case f32Array.refl.f32Array.refl => exact congrArg f32Array (hu32.list_map hwords)

theorem word_lt (hkind : value.kind? = some kind) {word : Nat} (hmem : word ∈ value.words) :
    word < Nat.pow 256 kind.elementLength := by
  have hsigned : ∀ value : Int16, twosComplement value < 65536 := by
    intro value
    rw [twosComplement_eq]
    exact value.toUInt16.toNat_lt
  cases value <;> cases hkind
  case u8.refl value => exact List.mem_singleton.mp hmem ▸ value.toNat_lt
  case u16.refl value => exact List.mem_singleton.mp hmem ▸ value.toNat_lt
  case u32.refl value => exact List.mem_singleton.mp hmem ▸ value.toNat_lt
  case i16.refl value => exact List.mem_singleton.mp hmem ▸ hsigned value
  case f32.refl word => exact List.mem_singleton.mp hmem ▸ word.toNat_lt
  case u16Array.refl =>
    obtain ⟨value, _, rfl⟩ := List.mem_map.mp hmem
    exact value.toNat_lt
  case u32Array.refl | f32Array.refl =>
    obtain ⟨value, _, rfl⟩ := List.mem_map.mp hmem
    exact value.toNat_lt
  case i16Array.refl =>
    obtain ⟨value, _, rfl⟩ := List.mem_map.mp hmem
    exact hsigned value

theorem length_words_of_scalar (hkind : value.kind? = some kind) (hscalar : kind.isArray = false) :
    value.words.length = 1 := by
  cases value <;> cases hkind <;> first | rfl | cases hscalar

end Value

namespace ValueKind

/-- The elements of a value written one after the other, low byte first. -/
def write (kind : ValueKind) (value : Value) : Bytes :=
  value.words.flatMap (Bytes.ofNatLE kind.elementLength)

/-- The value that data says if every byte is looked up by its place; nothing if a byte is looked
for behind the end of its element. -/
def readByPlace? (kind : ValueKind) (data : Bytes) : Option Value :=
  match kind with
  | u8 => (Bytes.wordAt? 1 data).map fun word => .u8 (UInt8.ofNat word)
  | u16 => (Bytes.wordAt? 2 data).map fun word => .u16 (UInt16.ofNat word)
  | i16 => (Bytes.wordAt? 2 data).map fun word => .i16 (UInt16.ofNat word).toInt16
  | u32 => (Bytes.wordAt? 4 data).map fun word => .u32 (UInt32.ofNat word)
  | f32 => (Bytes.wordAt? 4 data).map fun word => .f32 (UInt32.ofNat word)
  | u16Array =>
    ((Bytes.chunks 2 data).mapM (Bytes.wordAt? 2)).map fun words =>
      .u16Array (words.map UInt16.ofNat)
  | i16Array =>
    ((Bytes.chunks 2 data).mapM (Bytes.wordAt? 2)).map fun words =>
      .i16Array (words.map fun word => (UInt16.ofNat word).toInt16)
  | u32Array =>
    ((Bytes.chunks 4 data).mapM (Bytes.wordAt? 4)).map fun words =>
      .u32Array (words.map UInt32.ofNat)
  | f32Array =>
    ((Bytes.chunks 4 data).mapM (Bytes.wordAt? 4)).map fun words =>
      .f32Array (words.map UInt32.ofNat)

def elements (kind : ValueKind) (data : Bytes) : List Bytes :=
  if kind.isArray then Bytes.chunks kind.elementLength data else [data]

variable {kind : ValueKind} {data : Bytes} {value : Value}

theorem elementLength_pos (kind : ValueKind) : 0 < kind.elementLength := by
  cases kind <;> decide

theorem admits_length_iff :
    kind.admits data.length = true ↔
      if kind.isArray then kind.elementLength ∣ data.length
      else data.length = kind.elementLength := by
  unfold admits
  split_ifs
  · rw [beq_iff_eq, Nat.dvd_iff_mod_eq_zero]
  · exact beq_iff_eq

/-! ### Elements -/

theorem flatten_elements (kind : ValueKind) (data : Bytes) :
    (kind.elements data).flatten = data := by
  unfold elements
  split_ifs
  · exact Bytes.flatten_chunks _ data
  · exact List.flatten_singleton

theorem length_of_mem_elements (hadmits : kind.admits data.length = true) {element : Bytes}
    (hmem : element ∈ kind.elements data) : element.length = kind.elementLength := by
  rw [admits_length_iff] at hadmits
  unfold elements at hmem
  split_ifs at hadmits hmem
  · exact Bytes.length_of_mem_chunks kind.elementLength_pos hadmits hmem
  · rw [List.mem_singleton.mp hmem, hadmits]

theorem length_elements (hadmits : kind.admits data.length = true) :
    (kind.elements data).length = data.length / kind.elementLength := by
  have hlength := Bytes.length_flatten_of_forall_mem fun _ => length_of_mem_elements hadmits
  rw [flatten_elements] at hlength
  rw [hlength, Nat.mul_div_cancel _ kind.elementLength_pos]

/-! ### Reading -/

@[simp]
theorem kind?_read (kind : ValueKind) (data : Bytes) : (kind.read data).kind? = some kind := by
  cases kind <;> rfl

theorem words_read (hadmits : kind.admits data.length = true) :
    (kind.read data).words = (kind.elements data).map Bytes.toNatLE := by
  have hlt : ∀ element ∈ kind.elements data,
      Bytes.toNatLE element < Nat.pow 256 kind.elementLength := by
    intro element hmem
    rw [← length_of_mem_elements hadmits hmem]
    exact Bytes.toNatLE_lt element
  have hu16 : ∀ number < Nat.pow 256 2, (UInt16.ofNat number).toNat = number :=
    fun _ => UInt16.toNat_ofNat_of_lt'
  have hu32 : ∀ number < Nat.pow 256 4, (UInt32.ofNat number).toNat = number :=
    fun _ => UInt32.toNat_ofNat_of_lt'
  cases kind
  case u8 => exact congrArg ([·]) (UInt8.toNat_ofNat_of_lt' (hlt data (List.mem_singleton_self _)))
  case u16 => exact congrArg ([·]) (hu16 _ (hlt data (List.mem_singleton_self _)))
  case u32 | f32 => exact congrArg ([·]) (hu32 _ (hlt data (List.mem_singleton_self _)))
  case i16 =>
    refine congrArg ([·]) ((Value.twosComplement_toInt16 _).trans ?_)
    exact hu16 _ (hlt data (List.mem_singleton_self _))
  case u16Array =>
    refine List.map_map.trans (List.map_congr_left fun element hmem => ?_)
    exact hu16 _ (hlt element hmem)
  case u32Array | f32Array =>
    refine List.map_map.trans (List.map_congr_left fun element hmem => ?_)
    exact hu32 _ (hlt element hmem)
  case i16Array =>
    refine List.map_map.trans (List.map_congr_left fun element hmem => ?_)
    exact (Value.twosComplement_toInt16 _).trans (hu16 _ (hlt element hmem))

/-- No byte is looked for where there is none. -/
theorem readByPlace?_eq (hadmits : kind.admits data.length = true) :
    kind.readByPlace? data = some (kind.read data) := by
  have hword : ∀ element ∈ kind.elements data,
      Bytes.wordAt? kind.elementLength element = some (Bytes.toNatLE element) :=
    fun _ hmem => Bytes.wordAt?_eq (length_of_mem_elements hadmits hmem)
  cases kind
  case u8 | u16 | u32 | i16 | f32 =>
    exact congrArg (Option.map _) (hword data (List.mem_singleton_self _))
  case u16Array | u32Array | i16Array | f32Array =>
    refine (congrArg (Option.map _) (Bytes.mapM_eq_some_map hword)).trans ?_
    simp only [Option.map_some, List.map_map, read]
    rfl

/-! ### Writing back -/

theorem write_read (hadmits : kind.admits data.length = true) :
    kind.write (kind.read data) = data := by
  have hback : ∀ element ∈ kind.elements data,
      Bytes.ofNatLE kind.elementLength (Bytes.toNatLE element) = element := by
    intro element hmem
    rw [← length_of_mem_elements hadmits hmem]
    exact Bytes.ofNatLE_toNatLE element
  calc kind.write (kind.read data)
      = ((kind.elements data).map fun element =>
          Bytes.ofNatLE kind.elementLength (Bytes.toNatLE element)).flatten := by
        rw [write, words_read hadmits, List.flatMap_def, List.map_map]
        rfl
    _ = (kind.elements data).flatten := by
        rw [List.map_congr_left hback, List.map_id']
    _ = data := kind.flatten_elements data

theorem length_write (kind : ValueKind) (value : Value) :
    (kind.write value).length = value.words.length * kind.elementLength := by
  rw [write, List.flatMap_def]
  refine (Bytes.length_flatten_of_forall_mem fun run hmem => ?_).trans (by rw [List.length_map])
  obtain ⟨word, _, rfl⟩ := List.mem_map.mp hmem
  exact Bytes.length_ofNatLE _ word

section Write

variable (hkind : value.kind? = some kind)

include hkind

theorem elements_write :
    kind.elements (kind.write value) = value.words.map (Bytes.ofNatLE kind.elementLength) := by
  unfold elements write
  rw [List.flatMap_def]
  split_ifs with harray
  · apply Bytes.chunks_flatten kind.elementLength_pos
    intro run hmem
    obtain ⟨word, _, rfl⟩ := List.mem_map.mp hmem
    exact Bytes.length_ofNatLE _ word
  · obtain ⟨word, hword⟩ := List.length_eq_one_iff.mp
      (Value.length_words_of_scalar hkind (Bool.eq_false_iff.mpr harray))
    rw [hword, List.map_singleton, List.flatten_singleton]

theorem admits_write : kind.admits (kind.write value).length = true := by
  rw [admits_length_iff, length_write]
  split_ifs with harray
  · exact Nat.dvd_mul_left _ _
  · rw [Value.length_words_of_scalar hkind (Bool.eq_false_iff.mpr harray), Nat.one_mul]

/-- Every value of a kind is what its own bytes say. -/
theorem read_write : kind.read (kind.write value) = value := by
  refine Value.eq_of_words (kind.kind?_read _) hkind ?_
  rw [words_read (admits_write hkind), elements_write hkind, List.map_map]
  refine (List.map_congr_left fun word hmem => ?_).trans (List.map_id' _)
  rw [Function.comp_apply, Bytes.toNatLE_ofNatLE, Nat.mod_eq_of_lt (Value.word_lt hkind hmem)]

end Write

theorem decode_eq_ok_iff {name : String} :
    kind.decode name data = .ok value ↔
      kind.admits data.length = true ∧ kind.read data = value := by
  unfold decode
  split_ifs with hadmits <;> simp [hadmits]

theorem exists_decode_eq_ok_iff {name : String} :
    (∃ value, kind.decode name data = .ok value) ↔ kind.admits data.length = true := by
  simp only [decode_eq_ok_iff]
  exact ⟨fun ⟨_, h⟩ => h.1, fun hadmits => ⟨_, hadmits, rfl⟩⟩

/-- **Nothing is lost.** Data of an admissible length is a value of the kind with one word for each
element, from which the data is written back; every value of the kind comes from data, and from no
other. -/
theorem decode_lossless (kind : ValueKind) (name : String) :
    (∀ data : Bytes, (∃ value, kind.decode name data = .ok value) ↔
        if kind.isArray then kind.elementLength ∣ data.length
        else data.length = kind.elementLength) ∧
      (∀ data value, kind.decode name data = .ok value →
        value.kind? = some kind ∧ value.words.length = data.length / kind.elementLength ∧
          kind.write value = data) ∧
      (∀ data other value, kind.decode name data = .ok value →
        kind.decode name other = .ok value → data = other) ∧
      (∀ value : Value, value.kind? = some kind →
        kind.decode name (kind.write value) = .ok value) ∧
      ∀ data value, kind.decode name data = .ok value → kind.readByPlace? data = some value := by
  have hback : ∀ data value, kind.decode name data = .ok value → kind.write value = data := by
    intro data value hdecode
    obtain ⟨hadmits, rfl⟩ := decode_eq_ok_iff.mp hdecode
    exact write_read hadmits
  refine ⟨fun data => exists_decode_eq_ok_iff.trans admits_length_iff, ?_, ?_, ?_, ?_⟩
  · intro data value hdecode
    refine ⟨?_, ?_, hback data value hdecode⟩
    · obtain ⟨_, rfl⟩ := decode_eq_ok_iff.mp hdecode
      exact kind.kind?_read data
    · obtain ⟨hadmits, rfl⟩ := decode_eq_ok_iff.mp hdecode
      rw [words_read hadmits, List.length_map, length_elements hadmits]
  · intro data other value hdecode hother
    rw [← hback data value hdecode, hback other value hother]
  · intro value hkind
    exact decode_eq_ok_iff.mpr ⟨admits_write hkind, read_write hkind⟩
  · intro data value hdecode
    obtain ⟨hadmits, rfl⟩ := decode_eq_ok_iff.mp hdecode
    exact readByPlace?_eq hadmits

/-- Two signed numbers, both below zero, the one closest to it and the one farthest from it. -/
theorem decode_lossless_signedPair :
    let data : Bytes := [0xFF, 0xFF, 0x00, 0x80]
    let value : Value := .i16Array [-1, -32768]
    i16Array.decode "offsets" data = .ok value ∧ value.words.length = 2 ∧
      i16Array.write value = data ∧ i16Array.readByPlace? data = some value := by
  obtain ⟨_, hkept, _, _, hplaces⟩ := decode_lossless i16Array "offsets"
  have hdecode : i16Array.decode "offsets" [0xFF, 0xFF, 0x00, 0x80] =
      .ok (.i16Array [-1, -32768]) := by
    rfl
  obtain ⟨_, hlength, hback⟩ := hkept _ _ hdecode
  exact ⟨hdecode, hlength, hback, hplaces _ _ hdecode⟩

end ValueKind

end SensorGateway
