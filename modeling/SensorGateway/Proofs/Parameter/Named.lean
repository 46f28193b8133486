import SensorGateway.Proofs.Parameter.Readings

/-!
# Parameters by name

Whoever writes a parameter knows its name and its data. The name leads to the type code, the kind
says which lengths are admissible, and kind and length fix the form of the length field
(`LengthFlag.Suits`). There is an entry for everything that the kind accepts and a length field can
announce, and for nothing else; read back, it is one value under the name it was written by
(`named_reads_back`).
-/

namespace SensorGateway

namespace LengthFlag

/-- No form with a length field that holds the length is shorter than this one. -/
structure Shortest (length : Nat) (flag : LengthFlag) : Prop where
  explicit : flag ≠ implicit
  fits : length ≤ flag.maximum
  least : ∀ other, other ≠ implicit → length ≤ other.maximum →
    flag.fieldLength ≤ other.fieldLength

/-- The form of the length field for data of a kind. -/
inductive Suits (kind : ValueKind) (length : Nat) : LengthFlag → Prop
  | wideScalar (hwidth : kind.fixedLength? = some 4) : Suits kind length implicit
  | narrowScalar (width : Nat) (hwidth : kind.fixedLength? = some width) (hnarrow : width < 4) :
      Suits kind length oneByte
  | array (flag : LengthFlag) (harray : kind.fixedLength? = none)
      (hshortest : Shortest length flag) : Suits kind length flag

variable {flag : LengthFlag} {length : Nat} {kind : ValueKind}

theorem maximum_le (flag : LengthFlag) : flag.maximum ≤ threeBytes.maximum := by
  cases flag <;> decide

theorem Shortest.eq {other : LengthFlag} (h : Shortest length flag)
    (hother : Shortest length other) : flag = other := by
  obtain ⟨hexplicit, hfits, hleast⟩ := h
  obtain ⟨hotherExplicit, hotherFits, hotherLeast⟩ := hother
  have hle := hleast other hotherExplicit hotherFits
  have hge := hotherLeast flag hexplicit hfits
  cases flag <;> cases other <;> simp_all [fieldLength]

theorem smallestFor?_eq (length : Nat) :
    smallestFor? length =
      if length ≤ 0xFF then some oneByte
      else if length ≤ 0xFFFF then some twoBytes
      else if length ≤ 0xFFFFFF then some threeBytes
      else none := by
  simp only [smallestFor?, List.find?_cons, List.find?_nil, maximum]
  split_ifs <;> simp [*]

theorem shortest_of_smallestFor? (hfind : smallestFor? length = some flag) :
    Shortest length flag := by
  rw [smallestFor?_eq] at hfind
  split_ifs at hfind with hone htwo hthree <;> cases hfind
  · refine ⟨nofun, hone, fun other hexplicit _ => ?_⟩
    cases other with
    | implicit => exact absurd rfl hexplicit
    | oneByte | twoBytes | threeBytes => decide
  · refine ⟨nofun, htwo, fun other hexplicit hfits => ?_⟩
    cases other with
    | implicit => exact absurd rfl hexplicit
    | oneByte => exact absurd hfits hone
    | twoBytes | threeBytes => decide
  · refine ⟨nofun, hthree, fun other hexplicit hfits => ?_⟩
    cases other with
    | implicit => exact absurd rfl hexplicit
    | oneByte => exact absurd hfits hone
    | twoBytes => exact absurd hfits htwo
    | threeBytes => decide

theorem exists_smallestFor?_iff :
    (∃ flag, smallestFor? length = some flag) ↔ length ≤ threeBytes.maximum := by
  constructor
  · rintro ⟨flag, hfind⟩
    exact Nat.le_trans (shortest_of_smallestFor? hfind).fits (maximum_le flag)
  · intro hfits
    rw [smallestFor?_eq, if_pos (c := length ≤ 0xFFFFFF) hfits]
    split_ifs
    · exact ⟨_, rfl⟩
    · exact ⟨_, rfl⟩
    · exact ⟨_, rfl⟩

theorem smallestFor?_eq_some_iff : smallestFor? length = some flag ↔ Shortest length flag := by
  refine ⟨shortest_of_smallestFor?, fun hshortest => ?_⟩
  have hfits := Nat.le_trans hshortest.fits (maximum_le flag)
  obtain ⟨found, hfound⟩ := exists_smallestFor?_iff.mpr hfits
  rw [hfound, (shortest_of_smallestFor? hfound).eq hshortest]

end LengthFlag

namespace ValueKind

variable {kind : ValueKind} {length width : Nat} {flag : LengthFlag}

theorem admits_iff (hwidth : kind.fixedLength? = some width) :
    kind.admits length = true ↔ length = width := by
  unfold fixedLength? at hwidth
  split_ifs at hwidth with harray
  cases hwidth
  simp [admits, harray]

theorem width_le (hwidth : kind.fixedLength? = some width) : width ≤ 4 := by
  cases kind <;> cases hwidth <;> decide

theorem suits_iff_of_scalar (hwidth : kind.fixedLength? = some width) :
    LengthFlag.Suits kind length flag ↔ (if width = 4 then .implicit else .oneByte) = flag := by
  have hle := width_le hwidth
  constructor
  · intro hsuits
    cases hsuits with
    | wideScalar hwide =>
      cases hwidth.symm.trans hwide
      rfl
    | narrowScalar narrow hnarrow hlt =>
      cases hwidth.symm.trans hnarrow
      exact if_neg (Nat.ne_of_lt hlt)
    | array _ harray _ => cases hwidth.symm.trans harray
  · rintro rfl
    split_ifs with hwide
    · exact .wideScalar (hwide ▸ hwidth)
    · exact .narrowScalar width hwidth (Nat.lt_of_le_of_ne hle hwide)

theorem suits_iff_of_array (harray : kind.fixedLength? = none) :
    LengthFlag.Suits kind length flag ↔ LengthFlag.Shortest length flag := by
  constructor
  · intro hsuits
    cases hsuits with
    | wideScalar hwide => cases harray.symm.trans hwide
    | narrowScalar _ hnarrow _ => cases harray.symm.trans hnarrow
    | array _ _ hshortest => exact hshortest
  · exact .array flag harray

theorem admits_of_suits (hsuits : LengthFlag.Suits kind length flag)
    (hadmits : kind.admits length = true) : flag.admits length = true := by
  cases hsuits with
  | wideScalar hwide =>
    rw [(admits_iff hwide).mp hadmits]
    rfl
  | narrowScalar width hwidth hnarrow =>
    rw [(admits_iff hwidth).mp hadmits]
    exact decide_eq_true (Nat.le_trans (Nat.le_of_lt hnarrow) (by decide))
  | array flag _ hshortest =>
    obtain ⟨hexplicit, hfits, _⟩ := hshortest
    cases flag with
    | implicit => exact absurd rfl hexplicit
    | oneByte | twoBytes | threeBytes => exact decide_eq_true hfits

theorem exists_suits_iff (hadmits : kind.admits length = true) :
    (∃ flag, LengthFlag.Suits kind length flag) ↔ length ≤ 0xFFFFFF := by
  cases hwidth : kind.fixedLength? with
  | some width =>
    have hle := width_le hwidth
    have hlength := (admits_iff hwidth).mp hadmits
    simp only [suits_iff_of_scalar hwidth, exists_eq']
    exact iff_of_true trivial (by omega)
  | none =>
    simp only [suits_iff_of_array hwidth, ← LengthFlag.smallestFor?_eq_some_iff]
    exact LengthFlag.exists_smallestFor?_iff

end ValueKind

theorem Parameter.decode_eq_ok_iff {parameter : Parameter} {data : Bytes} {value : Value} :
    parameter.decode data = .ok value ↔
      parameter.kind.admits data.length = true ∧ parameter.kind.read data = value := by
  unfold decode ValueKind.decode
  split_ifs with hadmits <;> simp [hadmits]

namespace Entry

variable {entry : Entry} {parameter : Parameter} {name : String} {data : Bytes} {flag : LengthFlag}

theorem flagFor_eq_ok_iff :
    flagFor parameter data = .ok flag ↔
      parameter.kind.admits data.length = true ∧
        LengthFlag.Suits parameter.kind data.length flag := by
  unfold flagFor
  cases hwidth : parameter.kind.fixedLength? with
  | some width =>
    rw [ValueKind.admits_iff hwidth, ValueKind.suits_iff_of_scalar hwidth]
    by_cases hlength : data.length = width
    · simp only [hlength, ne_eq, not_true_eq_false, if_false, Except.ok.injEq, true_and]
    · simp only [hlength, ne_eq, not_false_eq_true, if_true, reduceCtorEq, false_and]
  | none =>
    rw [ValueKind.suits_iff_of_array hwidth, ← LengthFlag.smallestFor?_eq_some_iff]
    cases hdecode : parameter.decode data with
    | error failure =>
      have hrefused : parameter.kind.admits data.length ≠ true := fun hadmits => by
        simp [Parameter.decode_eq_ok_iff.mpr ⟨hadmits, rfl⟩] at hdecode
      simp [hrefused]
    | ok value =>
      have hadmits := (Parameter.decode_eq_ok_iff.mp hdecode).1
      cases LengthFlag.smallestFor? data.length with
      | none => simp
      | some found => simp [hadmits]

def ofParameter (parameter : Parameter) (flag : LengthFlag) (data : Bytes) : Entry :=
  ⟨parameter.typeCode * 4 + flag.bits, data.length, data⟩

theorem flag_ofParameter (parameter : Parameter) (flag : LengthFlag) (data : Bytes) :
    (ofParameter parameter flag data).flag = flag :=
  LengthFlag.ofBits_head parameter.typeCode flag

theorem typeCode_ofParameter (parameter : Parameter) (flag : LengthFlag) (data : Bytes) :
    (ofParameter parameter flag data).typeCode = parameter.typeCode := by
  have hmod := congrArg UInt16.toNat (ParameterKey.typeCode_mod parameter.key)
  apply UInt16.toNat_inj.mp
  simp at hmod
  cases flag <;> simp [ofParameter, typeCode, LengthFlag.bits, Parameter.typeCode] <;> omega

theorem make_of_admits (hadmits : flag.admits data.length = true) :
    make parameter.typeCode flag data = .ok (ofParameter parameter flag data) := by
  have hmod : parameter.typeCode % 0x4000 = parameter.typeCode :=
    ParameterKey.typeCode_mod parameter.key
  simp only [make, hadmits, if_true, hmod, ofParameter]

theorem named_eq_ok_iff :
    named name data = .ok entry ↔
      ∃ parameter ∈ Catalogue.parameters, parameter.name = name ∧
        parameter.kind.admits data.length = true ∧
          ∃ flag, LengthFlag.Suits parameter.kind data.length flag ∧
            ofParameter parameter flag data = entry := by
  unfold named
  constructor
  · intro hentry
    cases hnamed : Catalogue.named? name with
    | none => simp [hnamed] at hentry
    | some parameter =>
      obtain ⟨hmem, hname⟩ := Catalogue.named?_eq_some_iff.mp hnamed
      cases hflag : flagFor parameter data with
      | error failure => simp [hnamed, hflag] at hentry
      | ok flag =>
        obtain ⟨hadmits, hsuits⟩ := flagFor_eq_ok_iff.mp hflag
        simp only [hnamed, hflag,
          make_of_admits (ValueKind.admits_of_suits hsuits hadmits)] at hentry
        exact ⟨parameter, hmem, hname, hadmits, flag, hsuits, Except.ok.inj hentry⟩
  · rintro ⟨parameter, hmem, hname, hadmits, flag, hsuits, rfl⟩
    have hnamed := Catalogue.named?_eq_some_iff.mpr ⟨hmem, hname⟩
    have hflag := flagFor_eq_ok_iff.mpr ⟨hadmits, hsuits⟩
    simp only [hnamed, hflag]
    exact make_of_admits (ValueKind.admits_of_suits hsuits hadmits)

/-- What has been written for a known parameter is read as the value that its data says. -/
theorem decode_encode_ofParameter (hmem : parameter ∈ Catalogue.parameters) {value : Value}
    (hdecode : parameter.decode data = .ok value)
    (htruthful : (ofParameter parameter flag data).Truthful) :
    ReadingList.decode (ofParameter parameter flag data).encode 1 =
      ⟨[⟨parameter.typeCode, parameter.name, parameter.unit, value⟩], []⟩ := by
  have hread := htruthful.read_encode []
  rw [List.append_nil] at hread
  have hentry : Reading.ofEntry (ofParameter parameter flag data) =
      .ok ⟨parameter.typeCode, parameter.name, parameter.unit, value⟩ := by
    simp only [Reading.ofEntry, typeCode_ofParameter, Catalogue.lookup?_typeCode hmem]
    rw [ofParameter, hdecode]
  rw [ReadingList.decode_of_read_ok hread, hentry]
  rfl

/-- **Writing a parameter by name and reading it back.** The entry exists if and only if the name is
known, its kind accepts the data and the longest length field can announce it; the form of the
length field is then the one that suits the kind, and the entry is read as one value of the
parameter with this name. -/
theorem named_reads_back (name : String) (data : Bytes) :
    ((∃ entry, named name data = .ok entry) ↔
      ∃ parameter ∈ Catalogue.parameters, parameter.name = name ∧
        (∃ value, parameter.decode data = .ok value) ∧ data.length ≤ 0xFFFFFF) ∧
      ∀ entry, named name data = .ok entry →
        ∃ parameter ∈ Catalogue.parameters, parameter.name = name ∧
          LengthFlag.Suits parameter.kind data.length entry.flag ∧
            ∃ value, parameter.decode data = .ok value ∧
              ReadingList.decode entry.encode 1 =
                ⟨[⟨parameter.typeCode, name, parameter.unit, value⟩], []⟩ := by
  constructor
  · constructor
    · rintro ⟨entry, hentry⟩
      obtain ⟨parameter, hmem, hname, hadmits, flag, hsuits, _⟩ := named_eq_ok_iff.mp hentry
      exact ⟨parameter, hmem, hname, ⟨_, Parameter.decode_eq_ok_iff.mpr ⟨hadmits, rfl⟩⟩,
        (ValueKind.exists_suits_iff hadmits).mp ⟨flag, hsuits⟩⟩
    · rintro ⟨parameter, hmem, hname, ⟨value, hdecode⟩, hlength⟩
      have hadmits := (Parameter.decode_eq_ok_iff.mp hdecode).1
      obtain ⟨flag, hsuits⟩ := (ValueKind.exists_suits_iff hadmits).mpr hlength
      exact ⟨_, named_eq_ok_iff.mpr ⟨parameter, hmem, hname, hadmits, flag, hsuits, rfl⟩⟩
  · intro entry hentry
    have htruthful := (Built.named name data hentry).truthful
    obtain ⟨parameter, hmem, rfl, hadmits, flag, hsuits, rfl⟩ := named_eq_ok_iff.mp hentry
    have hdecode := Parameter.decode_eq_ok_iff.mpr ⟨hadmits, rfl⟩
    rw [flag_ofParameter]
    exact ⟨parameter, hmem, rfl, hsuits, _, hdecode,
      decode_encode_ofParameter hmem hdecode htruthful⟩

/-- The shortest waveform that needs a length field of two bytes. -/
theorem named_reads_back_waveform :
    let data : Bytes := List.replicate 256 0
    ∃ entry, named "Waveform" data = .ok entry ∧ entry.flag = .twoBytes ∧
      LengthFlag.Suits .f32Array data.length entry.flag ∧
        ∃ value, ReadingList.decode entry.encode 1 = ⟨[⟨0x003C, "Waveform", "", value⟩], []⟩ := by
  intro data
  have hentry : named "Waveform" data = .ok ⟨0x00F2, 256, data⟩ := by decide +kernel
  obtain ⟨parameter, hmem, hname, hsuits, value, _, hread⟩ :=
    (named_reads_back "Waveform" data).2 _ hentry
  have hfound := Catalogue.named?_eq_some_iff.mpr ⟨hmem, hname⟩
  have hwaveform : Catalogue.named? "Waveform" = some ⟨0, 0x003C, "Waveform", "", .f32Array⟩ := by
    decide +kernel
  cases hwaveform.symm.trans hfound
  exact ⟨_, hentry, LengthFlag.ofBits_head 0x003C .twoBytes, hsuits, value, hread⟩

end Entry

end SensorGateway
