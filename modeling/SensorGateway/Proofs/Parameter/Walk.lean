import SensorGateway.Proofs.Parameter.Entries

/-!
# Walking over a hostile payload

Any byte string either begins with an entry that has all the data it announces, or it is cut short
in the head, in the length field or in the data; which of these holds is a matter of the bytes
alone, and `read` finds it out (`cutShort_or_begins`). The reader only adds its bookkeeping. After
any number of calls it stands behind the entries it has given away, whose bytes are those before its
offset, and what stands in front of it decides the next answer (`reads_exactly`).
-/

namespace SensorGateway

namespace LengthFlag

variable {flag : LengthFlag} {field : Bytes}

/-- Every length field of the right extent has been written from the length it announces. -/
theorem encode_decode (hfield : field.length = flag.fieldLength) :
    flag.encode (flag.decode field) = field := by
  cases flag with
  | implicit => exact (List.eq_nil_of_length_eq_zero hfield).symm
  | oneByte | twoBytes =>
    have h := Bytes.ofNatLE_toNatLE field
    rw [hfield] at h
    exact h
  | threeBytes =>
    have h := Bytes.ofNatBE_toNatBE field
    rw [hfield] at h
    exact h

theorem admits_decode (hfield : field.length = flag.fieldLength) :
    flag.admits (flag.decode field) = true := by
  have hlt := Bytes.toNatLE_lt field
  have hreversed := Bytes.toNatLE_lt field.reverse
  rw [List.length_reverse, hfield] at hreversed
  rw [hfield] at hlt
  cases flag with
  | implicit => rfl
  | oneByte | twoBytes => exact decide_eq_true (Nat.le_of_lt_succ hlt)
  | threeBytes => exact decide_eq_true (Nat.le_of_lt_succ hreversed)

end LengthFlag

namespace Entry

/-- The byte string begins with an entry whose data is as long as announced. -/
def Begins (bytes : Bytes) : Prop :=
  ∃ entry : Entry, entry.Truthful ∧ entry.encode <+: bytes

/-- The byte string at an offset ends before its first entry does, and the failure that says so. -/
inductive CutShort (offset : Nat) (bytes : Bytes) : Failure → Prop
  /-- No two bytes are left for a head. -/
  | head (hshort : bytes.length < 2) : CutShort offset bytes (.entryHeadOutOfBounds offset)
  /-- After the head there is not all of the length field. -/
  | field (head : UInt16) (field : Bytes) (hbytes : bytes = Bytes.ofNatLE 2 head.toNat ++ field)
      (hshort : field.length < (LengthFlag.ofBits head).fieldLength) :
      CutShort offset bytes (.entryHeadOutOfBounds offset)
  /-- After the length field there is less data than it announces. -/
  | data (head : UInt16) (declared : Nat) (data : Bytes)
      (hbytes : bytes = encode ⟨head, declared, data⟩)
      (hadmits : (LengthFlag.ofBits head).admits declared = true)
      (hshort : data.length < declared) :
      CutShort offset bytes (.entryDataOutOfBounds offset declared data.length)

variable {offset : Nat} {bytes : Bytes} {failure : Failure}

/-! ### Reading the first entry -/

theorem exists_head_eq (low high : UInt8) :
    ∃ head : UInt16, [low, high] = Bytes.ofNatLE 2 head.toNat := by
  have hlow := low.toNat_lt
  have hhigh := high.toNat_lt
  have hnumber := Bytes.ofNatLE_toNatLE [low, high]
  have hlt : Bytes.toNatLE [low, high] < UInt16.size := by
    simp only [Bytes.toNatLE, UInt16.size]
    omega
  refine ⟨UInt16.ofNat (Bytes.toNatLE [low, high]), ?_⟩
  rw [UInt16.toNat_ofNat_of_lt' hlt]
  exact hnumber.symm

theorem read_of_short (hshort : bytes.length < 2) : read bytes = .error .head := by
  match bytes, hshort with
  | [], _ => rfl
  | [_], _ => rfl

theorem read_of_field_short {head : UInt16} {field : Bytes}
    (hshort : field.length < (LengthFlag.ofBits head).fieldLength) :
    read (Bytes.ofNatLE 2 head.toNat ++ field) = .error .head := by
  obtain ⟨low, high, hhead⟩ : ∃ low high, Bytes.ofNatLE 2 head.toNat = [low, high] :=
    ⟨_, _, rfl⟩
  have hread : UInt16.ofNat (Bytes.toNatLE [low, high]) = head := by
    rw [← hhead, ofNat_toNatLE_head]
  rw [hhead, List.cons_append, List.cons_append, List.nil_append, read]
  simp only [hread, List.take_of_length_le (Nat.le_of_lt hshort), hshort, if_true]

theorem read_of_data_short {head : UInt16} {declared : Nat} {data : Bytes}
    (hadmits : (LengthFlag.ofBits head).admits declared = true) (hshort : data.length < declared) :
    read (encode ⟨head, declared, data⟩) = .error (.data declared data.length) := by
  have hfield := LengthFlag.length_encode (LengthFlag.ofBits head) declared
  have hdeclared := LengthFlag.decode_encode hadmits
  unfold encode flag
  rw [read_append hfield]
  dsimp only
  rw [hdeclared, if_pos hshort]

/-- Whoever is not cut short begins with an entry, and reading tells which. -/
theorem cutShort_or_begins (offset : Nat) (bytes : Bytes) :
    (∃ cause, read bytes = .error cause ∧
        CutShort offset bytes (EntryReader.failureAt offset cause)) ∨
      ∃ entry rest, read bytes = .ok (entry, rest) ∧ entry.Truthful ∧
        bytes = entry.encode ++ rest := by
  match bytes with
  | [] => exact Or.inl ⟨.head, rfl, .head (Nat.zero_lt_succ 1)⟩
  | [_] => exact Or.inl ⟨.head, rfl, .head (Nat.lt_succ_self 1)⟩
  | low :: high :: tail =>
    obtain ⟨head, hhead⟩ := exists_head_eq low high
    have hbytes : low :: high :: tail = Bytes.ofNatLE 2 head.toNat ++ tail := by
      rw [← hhead]
      rfl
    rcases Nat.lt_or_ge tail.length (LengthFlag.ofBits head).fieldLength with hshort | hlong
    · rw [hbytes]
      exact Or.inl ⟨.head, read_of_field_short hshort, .field head tail rfl hshort⟩
    · obtain ⟨field, data, rfl, hfield⟩ : ∃ field data, tail = field ++ data ∧
          field.length = (LengthFlag.ofBits head).fieldLength :=
        ⟨_, _, (List.take_append_drop _ tail).symm, List.length_take_of_le hlong⟩
      have hread := read_append hfield data
      have hadmits := LengthFlag.admits_decode hfield
      rw [← List.append_assoc] at hbytes
      rw [hbytes]
      dsimp only at hread
      split_ifs at hread with hshort
      · refine Or.inl ⟨_, hread, .data head _ data ?_ hadmits hshort⟩
        rw [encode, flag, LengthFlag.encode_decode hfield]
      · have hcount := List.length_take_of_le (Nat.not_lt.mp hshort)
        refine Or.inr ⟨_, _, hread, ⟨hcount.symm, ?_⟩, ?_⟩
        · rw [flag, hcount]
          exact hadmits
        · rw [encode, flag, LengthFlag.encode_decode hfield, List.append_assoc _ _ (List.drop _ _),
            List.take_append_drop]

theorem cutShort_iff :
    CutShort offset bytes failure ↔
      ∃ cause, read bytes = .error cause ∧ failure = EntryReader.failureAt offset cause := by
  constructor
  · rintro (hshort | ⟨head, field, rfl, hshort⟩ | ⟨head, declared, data, rfl, hadmits, hshort⟩)
    · exact ⟨.head, read_of_short hshort, rfl⟩
    · exact ⟨.head, read_of_field_short hshort, rfl⟩
    · exact ⟨_, read_of_data_short hadmits hshort, rfl⟩
  · rintro ⟨cause, hread, rfl⟩
    obtain ⟨other, hother, hcut⟩ | ⟨entry, rest, hother, _⟩ := cutShort_or_begins offset bytes
    · rw [hread, Except.error.injEq] at hother
      rwa [hother]
    · rw [hread] at hother
      cases hother

theorem read_eq_ok_iff {entry : Entry} {rest : Bytes} :
    read bytes = .ok (entry, rest) ↔ entry.Truthful ∧ bytes = entry.encode ++ rest := by
  constructor
  · intro hread
    obtain ⟨cause, hother, _⟩ | ⟨other, tail, hother, h⟩ := cutShort_or_begins 0 bytes
    · rw [hread] at hother
      cases hother
    · rw [hread, Except.ok.injEq, Prod.mk.injEq] at hother
      rwa [hother.1, hother.2]
  · rintro ⟨h, rfl⟩
    exact h.read_encode rest

theorem exists_read_eq_ok_iff {entry : Entry} :
    (∃ rest, read bytes = .ok (entry, rest)) ↔ entry.Truthful ∧ entry.encode <+: bytes := by
  constructor
  · rintro ⟨rest, hread⟩
    obtain ⟨h, hbytes⟩ := read_eq_ok_iff.mp hread
    exact ⟨h, rest, hbytes.symm⟩
  · rintro ⟨h, rest, hbytes⟩
    exact ⟨rest, read_eq_ok_iff.mpr ⟨h, hbytes.symm⟩⟩

theorem exists_cutShort_iff : (∃ failure, CutShort offset bytes failure) ↔ ¬ Begins bytes := by
  constructor
  · rintro ⟨failure, hcut⟩ ⟨entry, h, rest, rfl⟩
    obtain ⟨cause, hread, _⟩ := cutShort_iff.mp hcut
    rw [h.read_encode] at hread
    cases hread
  · intro hnot
    obtain ⟨cause, _, hcut⟩ | ⟨entry, rest, _, h, hbytes⟩ := cutShort_or_begins offset bytes
    · exact ⟨_, hcut⟩
    · exact absurd ⟨entry, h, rest, hbytes.symm⟩ hnot

end Entry

namespace EntryReader

/-! ### Calls of the reader -/

/-- One call: the answer, if there is one more, and the reader after it. -/
def call (reader : EntryReader) : Option (Except Failure Entry) × EntryReader :=
  match reader.next? with
  | none => (none, reader)
  | some (item, after) => (some item, after)

def calls (reader : EntryReader) : Nat → List (Option (Except Failure Entry)) × EntryReader
  | 0 => ([], reader)
  | number + 1 =>
    let (answers, last) := reader.calls number
    (answers ++ [last.call.1], last.call.2)

/-- What has come out of a reader: the entries, the failure behind them, and how many calls after
that went without an answer. -/
structure Yield where
  entries : List Entry
  failure? : Option Failure
  unanswered : Nat

namespace Yield

def answers (yield : Yield) : List (Option (Except Failure Entry)) :=
  yield.entries.map (fun entry => some (.ok entry)) ++
    yield.failure?.toList.map (fun failure => some (.error failure)) ++
    List.replicate yield.unanswered none

def items (yield : Yield) : Nat :=
  yield.entries.length + yield.failure?.toList.length

/-- There are items left to read, and nothing has failed. -/
def GoesOn (yield : Yield) (count : Nat) : Prop :=
  yield.items < count ∧ yield.failure? = none

end Yield

/-- Where a reader of a payload stands after what has come out of it. -/
structure StandsAfter (payload : Bytes) (count : Nat) (yield : Yield) (reader : EntryReader) :
    Prop where
  truthful : ∀ entry ∈ yield.entries, entry.Truthful
  offset_le : reader.offset ≤ payload.length
  consumed_eq : yield.entries.flatMap Entry.encode = payload.take reader.offset
  rest_eq : reader.rest = payload.drop reader.offset
  items_eq : yield.items + reader.remaining = count
  broken_eq : reader.broken = yield.failure?.isSome
  unanswered_eq : yield.GoesOn count → yield.unanswered = 0

structure Answers (payload : Bytes) (count : Nat) (yield : Yield) (reader : EntryReader) :
    Prop where
  /-- It is a failure if and only if there are items left and the rest is cut short. -/
  fails_iff : ∀ failure, reader.call.1 = some (.error failure) ↔
    yield.GoesOn count ∧ Entry.CutShort reader.offset (payload.drop reader.offset) failure
  exists_fails_iff : (∃ failure, reader.call.1 = some (.error failure)) ↔
    yield.GoesOn count ∧ ¬ Entry.Begins (payload.drop reader.offset)
  yields_iff : ∀ entry, reader.call.1 = some (.ok entry) ↔
    yield.GoesOn count ∧ entry.Truthful ∧ entry.encode <+: payload.drop reader.offset
  ends_iff : reader.call.1 = none ↔ ¬ yield.GoesOn count
  offset_of_fails : ∀ failure, reader.call.1 = some (.error failure) →
    reader.call.2.offset = reader.offset

variable {payload : Bytes} {count : Nat} {yield : Yield} {reader : EntryReader}

theorem call_of_stopped (h : reader.broken = true ∨ reader.remaining = 0) :
    reader.call = (none, reader) := by
  have hstopped : (reader.broken || reader.remaining == 0) = true := by
    rw [Bool.or_eq_true, beq_iff_eq]
    exact h
  rw [call, next?, if_pos hstopped]

section Reading

variable (hintact : reader.broken = false) (hmore : 0 < reader.remaining)

include hintact hmore

theorem call_of_read_ok {entry : Entry} {rest : Bytes}
    (hread : Entry.read reader.rest = .ok (entry, rest)) :
    reader.call =
      (some (.ok entry),
        { reader with
          rest
          offset := reader.offset + entry.encodedLength
          remaining := reader.remaining - 1 }) := by
  have hstopped : ¬ (reader.broken || reader.remaining == 0) = true := by
    rw [hintact, Bool.false_or, beq_iff_eq]
    omega
  rw [call, next?, if_neg hstopped, hread]

theorem call_of_read_error {cause : EntryError} (hread : Entry.read reader.rest = .error cause) :
    reader.call =
      (some (.error (failureAt reader.offset cause)),
        { reader with remaining := reader.remaining - 1, broken := true }) := by
  have hstopped : ¬ (reader.broken || reader.remaining == 0) = true := by
    rw [hintact, Bool.false_or, beq_iff_eq]
    omega
  rw [call, next?, if_neg hstopped, hread]

theorem call_fails_iff (failure : Failure) :
    reader.call.1 = some (.error failure) ↔
      Entry.CutShort reader.offset reader.rest failure := by
  rw [Entry.cutShort_iff]
  cases hread : Entry.read reader.rest with
  | error cause =>
    rw [call_of_read_error hintact hmore hread]
    simp [eq_comm]
  | ok found =>
    rw [call_of_read_ok hintact hmore hread]
    simp

theorem call_yields_iff (entry : Entry) :
    reader.call.1 = some (.ok entry) ↔ entry.Truthful ∧ entry.encode <+: reader.rest := by
  rw [← Entry.exists_read_eq_ok_iff]
  cases hread : Entry.read reader.rest with
  | error cause =>
    rw [call_of_read_error hintact hmore hread]
    simp
  | ok found =>
    rw [call_of_read_ok hintact hmore hread]
    simp [Prod.ext_iff]

theorem call_ne_none : reader.call.1 ≠ none := by
  cases hread : Entry.read reader.rest with
  | error cause =>
    rw [call_of_read_error hintact hmore hread]
    exact Option.some_ne_none _
  | ok found =>
    rw [call_of_read_ok hintact hmore hread]
    exact Option.some_ne_none _

theorem offset_call_of_fails {failure : Failure}
    (hfails : reader.call.1 = some (.error failure)) :
    reader.call.2.offset = reader.offset := by
  obtain ⟨cause, hread, _⟩ :=
    Entry.cutShort_iff.mp ((call_fails_iff hintact hmore failure).mp hfails)
  rw [call_of_read_error hintact hmore hread]

end Reading

theorem StandsAfter.goesOn_iff (h : StandsAfter payload count yield reader) :
    yield.GoesOn count ↔ reader.broken = false ∧ 0 < reader.remaining := by
  have hitems := h.items_eq
  rw [h.broken_eq, Option.isSome_eq_false_iff, Option.isNone_iff_eq_none, Yield.GoesOn, and_comm]
  apply and_congr_right'
  omega

theorem StandsAfter.call_of_not_goesOn (h : StandsAfter payload count yield reader)
    (hnot : ¬ yield.GoesOn count) : reader.call = (none, reader) := by
  apply call_of_stopped
  rw [h.goesOn_iff, not_and_or, Bool.not_eq_false] at hnot
  exact hnot.imp_right Nat.eq_zero_of_not_pos

theorem standsAfter_start (payload : Bytes) (count : Nat) :
    StandsAfter payload count ⟨[], none, 0⟩ (start payload count) where
  truthful := List.forall_mem_nil _
  offset_le := Nat.zero_le _
  consumed_eq := rfl
  rest_eq := rfl
  items_eq := Nat.zero_add count
  broken_eq := rfl
  unanswered_eq _ := rfl

theorem StandsAfter.fail {entries : List Entry}
    (h : StandsAfter payload count ⟨entries, none, 0⟩ reader) (hmore : 0 < reader.remaining)
    (failure : Failure) :
    StandsAfter payload count ⟨entries, some failure, 0⟩
      { reader with remaining := reader.remaining - 1, broken := true } where
  truthful := h.truthful
  offset_le := h.offset_le
  consumed_eq := h.consumed_eq
  rest_eq := h.rest_eq
  items_eq := by
    have hitems := h.items_eq
    simp only [Yield.items, Option.toList_none, Option.toList_some, List.length_nil,
      List.length_singleton] at hitems ⊢
    omega
  broken_eq := rfl
  unanswered_eq _ := rfl

theorem StandsAfter.proceed {entries : List Entry} {entry : Entry} {rest : Bytes}
    (h : StandsAfter payload count ⟨entries, none, 0⟩ reader) (hmore : 0 < reader.remaining)
    (hentry : entry.Truthful) (hrest : reader.rest = entry.encode ++ rest) :
    StandsAfter payload count ⟨entries ++ [entry], none, 0⟩
      { reader with
        rest
        offset := reader.offset + entry.encodedLength
        remaining := reader.remaining - 1 } where
  truthful other hmem := by
    rcases List.mem_append.mp hmem with hmem | hmem
    · exact h.truthful other hmem
    · rwa [List.mem_singleton.mp hmem]
  offset_le := by
    have hlength := congrArg List.length hrest
    rw [h.rest_eq, List.length_drop, List.length_append, Entry.length_encode] at hlength
    have hoffset := h.offset_le
    dsimp only
    omega
  consumed_eq := by
    have hpart : (payload.drop reader.offset).take entry.encodedLength = entry.encode := by
      rw [← h.rest_eq, hrest, List.take_left' entry.length_encode]
    dsimp only
    rw [List.flatMap_append, List.flatMap_singleton, List.take_add, ← h.consumed_eq, hpart]
  rest_eq := by
    dsimp only
    rw [← List.drop_drop, ← h.rest_eq, hrest, List.drop_left' entry.length_encode]
  items_eq := by
    have hitems := h.items_eq
    simp only [Yield.items, Option.toList_none, List.length_nil, List.length_append,
      List.length_singleton] at hitems ⊢
    omega
  broken_eq := h.broken_eq
  unanswered_eq _ := rfl

/-- One more call gives one more answer, and the reader stands behind that. -/
theorem StandsAfter.call (h : StandsAfter payload count yield reader) :
    ∃ after : Yield, yield.answers ++ [reader.call.1] = after.answers ∧
      StandsAfter payload count after reader.call.2 := by
  by_cases hgoes : yield.GoesOn count
  · obtain ⟨hintact, hmore⟩ := h.goesOn_iff.mp hgoes
    have hunanswered := h.unanswered_eq hgoes
    have hfailure := hgoes.2
    obtain ⟨entries, failure?, unanswered⟩ := yield
    subst hunanswered hfailure
    obtain ⟨cause, hread, _⟩ | ⟨entry, rest, hread, hentry, hrest⟩ :=
      Entry.cutShort_or_begins reader.offset reader.rest
    · rw [call_of_read_error hintact hmore hread]
      refine ⟨_, ?_, h.fail hmore (failureAt reader.offset cause)⟩
      simp [Yield.answers]
    · rw [call_of_read_ok hintact hmore hread]
      refine ⟨_, ?_, h.proceed hmore hentry hrest⟩
      simp [Yield.answers]
  · rw [h.call_of_not_goesOn hgoes]
    refine ⟨{ yield with unanswered := yield.unanswered + 1 }, ?_, ?_⟩
    · simp [Yield.answers, List.replicate_succ']
    · exact { h with unanswered_eq := fun hagain => absurd hagain hgoes }

theorem exists_standsAfter (payload : Bytes) (count number : Nat) :
    ∃ yield : Yield, ((start payload count).calls number).1 = yield.answers ∧
      StandsAfter payload count yield ((start payload count).calls number).2 := by
  induction number with
  | zero => exact ⟨_, rfl, standsAfter_start payload count⟩
  | succ number ih =>
    obtain ⟨yield, hanswers, h⟩ := ih
    obtain ⟨after, hafter, hstands⟩ := h.call
    refine ⟨after, ?_, hstands⟩
    rw [← hafter, ← hanswers]
    rfl

/-- What stands in front of the reader decides the next answer. -/
theorem StandsAfter.answers (h : StandsAfter payload count yield reader) :
    Answers payload count yield reader := by
  by_cases hgoes : yield.GoesOn count
  · obtain ⟨hintact, hmore⟩ := h.goesOn_iff.mp hgoes
    have hfails := call_fails_iff hintact hmore
    rw [h.rest_eq] at hfails
    have hyields := call_yields_iff hintact hmore
    rw [h.rest_eq] at hyields
    constructor
    case fails_iff =>
      intro failure
      rw [hfails, and_iff_right hgoes]
    case exists_fails_iff =>
      rw [and_iff_right hgoes, ← Entry.exists_cutShort_iff]
      exact exists_congr hfails
    case yields_iff =>
      intro entry
      rw [hyields, and_iff_right hgoes]
    case ends_iff =>
      exact iff_of_false (call_ne_none hintact hmore) (not_not_intro hgoes)
    case offset_of_fails => exact fun failure => offset_call_of_fails hintact hmore
  · have hcall := h.call_of_not_goesOn hgoes
    constructor <;> simp [hcall, hgoes]

/-- **A reader of any payload**, called as often as one likes, gives at most `count` items, one
failure at most, and nothing after that or after its first call without an answer. What it has
consumed are the bytes of its entries, and it fails if and only if the rest is cut short. -/
theorem reads_exactly (payload : Bytes) (count number : Nat) :
    let reader := ((start payload count).calls number).2
    ∃ yield : Yield, ((start payload count).calls number).1 = yield.answers ∧
      yield.items ≤ count ∧ StandsAfter payload count yield reader ∧
      Answers payload count yield reader := by
  intro reader
  obtain ⟨yield, hanswers, h⟩ := exists_standsAfter payload count number
  have hitems : yield.items ≤ count := by
    rw [← h.items_eq]
    exact Nat.le_add_right _ _
  exact ⟨yield, hanswers, hitems, h, h.answers⟩

/-- One entry, then one that announces nine bytes of data and has two. -/
example :
    ((start [0x14, 0, 1, 2, 3, 4, 0x71, 0, 9, 0xAA, 0xBB] 5).calls 3).1 =
      [some (.ok ⟨0x0014, 4, [1, 2, 3, 4]⟩), some (.error (.entryDataOutOfBounds 6 9 2)), none] :=
  rfl

end EntryReader

end SensorGateway
