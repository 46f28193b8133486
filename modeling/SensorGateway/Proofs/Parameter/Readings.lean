import SensorGateway.Parameter.Reading
import SensorGateway.Proofs.Parameter.Catalogue
import SensorGateway.Proofs.Parameter.Walk

/-!
# A bad entry costs only itself

What an entry says depends on the entry and the catalogue alone (`Entry.Says`): it is a value, or
the failure of this one entry. A parameter list is decoded entry by entry, and what follows the
entries is decoded as if it stood alone, only that its failures name offsets further on
(`decode_append`). So neither an entry that says nothing nor a list that is cut off anywhere changes
what is read in front of it (`decode_local`).
-/

namespace SensorGateway

namespace Failure

/-- The same failure in bytes that stand further on in a payload. -/
def shifted (distance : Nat) : Failure → Failure
  | entryHeadOutOfBounds offset => entryHeadOutOfBounds (offset + distance)
  | entryDataOutOfBounds offset declared available =>
    entryDataOutOfBounds (offset + distance) declared available
  | failure => failure

@[simp]
theorem shifted_zero : shifted 0 = id := by
  funext failure
  cases failure <;> rfl

theorem shifted_shifted (near far : Nat) (failure : Failure) :
    (failure.shifted near).shifted far = failure.shifted (near + far) := by
  cases failure <;> simp [shifted, Nat.add_assoc]

theorem shifted_failureAt (distance offset : Nat) (cause : EntryError) :
    (EntryReader.failureAt offset cause).shifted distance =
      EntryReader.failureAt (offset + distance) cause := by
  cases cause <;> rfl

end Failure

namespace Entry

/-- What an entry says on its own. -/
inductive Says (entry : Entry) : Except Failure Reading → Prop
  /-- A value, if a known parameter has this type code and its kind accepts the data. -/
  | value (parameter : Parameter) (value : Value) (hknown : parameter ∈ Catalogue.parameters)
      (htype : parameter.typeCode = entry.typeCode)
      (hdecode : parameter.decode entry.data = .ok value) :
      Says entry (.ok ⟨entry.typeCode, parameter.name, parameter.unit, value⟩)
  | unknownType (hunknown : ∀ parameter ∈ Catalogue.parameters,
      parameter.typeCode ≠ entry.typeCode) :
      Says entry (.error (.unknownParameterType entry.typeCode))
  /-- The kind of the known parameter does not accept data of this length. -/
  | width (parameter : Parameter) (hknown : parameter ∈ Catalogue.parameters)
      (htype : parameter.typeCode = entry.typeCode)
      (hwidth : parameter.kind.admits entry.data.length = false) :
      Says entry
        (.error (.valueWidth parameter.name parameter.kind.width entry.data.length))

variable {entry : Entry} {result : Except Failure Reading}

theorem typeCode_mod (entry : Entry) : entry.typeCode % 0x4000 = entry.typeCode := by
  have hlt := entry.head.toNat_lt
  apply UInt16.toNat_inj.mp
  simp [typeCode]
  omega

theorem says_ofEntry (entry : Entry) : entry.Says (Reading.ofEntry entry) := by
  unfold Reading.ofEntry
  cases hlookup : Catalogue.lookup? entry.typeCode with
  | none =>
    have hunknown := Catalogue.lookup?_eq_none_iff.mp hlookup
    rw [typeCode_mod] at hunknown
    exact .unknownType hunknown
  | some parameter =>
    obtain ⟨hknown, htype⟩ := Catalogue.lookup?_eq_some_iff.mp hlookup
    rw [typeCode_mod] at htype
    cases hadmits : parameter.kind.admits entry.data.length with
    | true =>
      have hdecode : parameter.decode entry.data = .ok (parameter.kind.read entry.data) :=
        if_pos hadmits
      simp only [hdecode]
      exact .value parameter _ hknown htype hdecode
    | false =>
      have hdecode : parameter.decode entry.data =
          .error (.valueWidth parameter.name parameter.kind.width entry.data.length) :=
        if_neg (Bool.eq_false_iff.mp hadmits)
      simp only [hdecode]
      exact .width parameter hknown htype hadmits

/-- The failure of an entry does not say where the entry stands. -/
theorem mapError_shifted_ofEntry (entry : Entry) (distance : Nat) :
    (Reading.ofEntry entry).mapError (Failure.shifted distance) = Reading.ofEntry entry := by
  have hsays := says_ofEntry entry
  generalize Reading.ofEntry entry = result at hsays ⊢
  cases hsays <;> rfl

end Entry

namespace EntryReader

/-- The item as it would come out of bytes that stand further on. -/
def shiftedItem (distance : Nat) (item : Except Failure Entry) : Except Failure Entry :=
  item.mapError (Failure.shifted distance)

/-- The reader as it would stand with more bytes consumed before. -/
def further (reader : EntryReader) (distance : Nat) : EntryReader :=
  { reader with offset := reader.offset + distance }

variable {reader : EntryReader}

theorem next?_further (reader : EntryReader) (distance : Nat) :
    (reader.further distance).next? =
      reader.next?.map fun (item, after) =>
        (shiftedItem distance item, after.further distance) := by
  unfold next? further
  dsimp only
  split
  · rfl
  · cases hread : Entry.read reader.rest with
    | ok found => simp [shiftedItem, Except.mapError, Nat.add_right_comm]
    | error cause => simp [shiftedItem, Except.mapError, Failure.shifted_failureAt]

theorem items_further (reader : EntryReader) (distance : Nat) :
    (reader.further distance).items = reader.items.map (shiftedItem distance) := by
  have hwithin : ∀ count (reader : EntryReader),
      (stepsWithin count (reader.further distance)).map Prod.fst =
        ((stepsWithin count reader).map Prod.fst).map (shiftedItem distance) := by
    intro count
    induction count with
    | zero => exact fun reader => rfl
    | succ count ih =>
      intro reader
      simp only [stepsWithin, next?_further]
      cases reader.next? with
      | none => rfl
      | some step => simp [ih]
  exact hwithin reader.remaining reader

end EntryReader

namespace ReadingList

instance : Append ReadingList :=
  ⟨fun front back => ⟨front.values ++ back.values, front.errors ++ back.errors⟩⟩

def shifted (list : ReadingList) (distance : Nat) : ReadingList :=
  ⟨list.values, list.errors.map (Failure.shifted distance)⟩

variable {payload rest suffix : Bytes} {entry : Entry} {entries : List Entry} {count : Nat}

@[simp]
theorem values_append (front back : ReadingList) :
    (front ++ back).values = front.values ++ back.values := rfl

@[ext]
theorem ext {left right : ReadingList} (hvalues : left.values = right.values)
    (herrors : left.errors = right.errors) : left = right := by
  cases left
  cases right
  cases hvalues
  cases herrors
  rfl

theorem append_assoc (front middle back : ReadingList) :
    front ++ middle ++ back = front ++ (middle ++ back) :=
  ext (List.append_assoc ..) (List.append_assoc ..)

@[simp]
theorem shifted_zero (list : ReadingList) : list.shifted 0 = list := by
  simp [shifted]

theorem shifted_append (front back : ReadingList) (distance : Nat) :
    (front ++ back).shifted distance = front.shifted distance ++ back.shifted distance :=
  ext rfl List.map_append

theorem shifted_shifted (list : ReadingList) (near far : Nat) :
    (list.shifted near).shifted far = list.shifted (near + far) := by
  simp [shifted, Function.comp_def, Failure.shifted_shifted]

/-! ### Successes and failures -/

theorem ofResults_cons (result : Except Failure Reading) (results : List (Except Failure Reading)) :
    ofResults (result :: results) = ofResults [result] ++ ofResults results := by
  cases result <;> rfl

theorem ofResults_mapError (results : List (Except Failure Reading)) (distance : Nat) :
    ofResults (results.map (Except.mapError (Failure.shifted distance))) =
      (ofResults results).shifted distance := by
  induction results with
  | nil => rfl
  | cons result results ih =>
    rw [List.map_cons, ofResults_cons, ih, ofResults_cons result, shifted_append]
    cases result <;> rfl

theorem shifted_ofEntries (entries : List Entry) (distance : Nat) :
    (ofResults (entries.map Reading.ofEntry)).shifted distance =
      ofResults (entries.map Reading.ofEntry) := by
  rw [← ofResults_mapError, List.map_map]
  congr 1
  exact List.map_congr_left fun entry _ => entry.mapError_shifted_ofEntry distance

/-! ### The first entry and the rest -/

theorem ofItem_shiftedItem (distance : Nat) (item : Except Failure Entry) :
    Reading.ofItem (EntryReader.shiftedItem distance item) =
      (Reading.ofItem item).mapError (Failure.shifted distance) := by
  cases item with
  | error failure => rfl
  | ok entry => exact (entry.mapError_shifted_ofEntry distance).symm

theorem ofResults_further (reader : EntryReader) (distance : Nat) :
    ofResults ((reader.further distance).items.map Reading.ofItem) =
      (ofResults (reader.items.map Reading.ofItem)).shifted distance := by
  rw [← ofResults_mapError, EntryReader.items_further, List.map_map, List.map_map]
  congr 1
  exact List.map_congr_left fun item _ => ofItem_shiftedItem distance item

theorem decode_of_read_ok (hread : Entry.read payload = .ok (entry, rest)) (count : Nat) :
    decode payload (count + 1) =
      ofResults [Reading.ofEntry entry] ++ (decode rest count).shifted entry.encodedLength := by
  have hnext : (EntryReader.start payload (count + 1)).next? =
      some (.ok entry, (EntryReader.start rest count).further entry.encodedLength) := by
    simp [EntryReader.next?, EntryReader.start, EntryReader.further, hread]
  have hitems : (EntryReader.start payload (count + 1)).items =
      .ok entry :: ((EntryReader.start rest count).further entry.encodedLength).items := by
    rw [EntryReader.items, EntryReader.steps_eq_cons hnext]
    rfl
  rw [decode, hitems, List.map_cons, ofResults_cons, ofResults_further]
  rfl

theorem decode_of_read_error {cause : EntryError} (hread : Entry.read payload = .error cause)
    (count : Nat) : decode payload (count + 1) = ⟨[], [EntryReader.failureAt 0 cause]⟩ := by
  have hnext : (EntryReader.start payload (count + 1)).next? =
      some (.error (EntryReader.failureAt 0 cause), ⟨payload, 0, count, true⟩) := by
    simp [EntryReader.next?, EntryReader.start, hread]
  have hstopped : (EntryReader.mk payload 0 count true).steps = [] := by
    cases count <;> rfl
  rw [decode, EntryReader.items, EntryReader.steps_eq_cons hnext, hstopped]
  rfl

/-! ### Entries in front of any bytes -/

/-- Entries are read one by one, and then the rest is decoded on its own. -/
theorem decode_append (hentries : ∀ entry ∈ entries, entry.Truthful) (suffix : Bytes)
    (count : Nat) :
    decode (entries.flatMap Entry.encode ++ suffix) count =
      ofResults ((entries.take count).map Reading.ofEntry) ++
        (decode suffix (count - entries.length)).shifted
          (entries.flatMap Entry.encode).length := by
  induction entries generalizing count with
  | nil =>
    simp only [List.take_nil, List.flatMap_nil, List.nil_append, List.length_nil, shifted_zero]
    rfl
  | cons entry entries ih =>
    cases count with
    | zero =>
      rw [List.length_cons, Nat.zero_sub]
      rfl
    | succ count =>
      have hread : Entry.read ((entry :: entries).flatMap Entry.encode ++ suffix) =
          .ok (entry, entries.flatMap Entry.encode ++ suffix) := by
        rw [List.flatMap_cons, List.append_assoc]
        exact (hentries entry List.mem_cons_self).read_encode _
      rw [decode_of_read_ok hread,
        ih (fun other hmem => hentries other (List.mem_cons_of_mem _ hmem)), shifted_append,
        shifted_ofEntries, shifted_shifted, List.take_succ_cons, List.map_cons,
        ofResults_cons (Reading.ofEntry entry) ((entries.take count).map Reading.ofEntry),
        append_assoc, List.length_cons, Nat.add_sub_add_right, List.flatMap_cons,
        List.length_append, Entry.length_encode, Nat.add_comm entry.encodedLength]

/-- What is decoded from less is the beginning of what is decoded from more. -/
theorem values_decode_take_isPrefix (payload : Bytes) (cut : Nat) {fewer count : Nat}
    (hfewer : fewer ≤ count) :
    (decode (payload.take cut) fewer).values <+: (decode payload count).values := by
  induction fewer generalizing payload cut count with
  | zero => exact List.nil_prefix
  | succ fewer ih =>
    obtain ⟨count, rfl⟩ : ∃ more, count = more + 1 := ⟨count - 1, by omega⟩
    cases hread : Entry.read (payload.take cut) with
    | error cause =>
      rw [decode_of_read_error hread]
      exact List.nil_prefix
    | ok found =>
      obtain ⟨entry, rest⟩ := found
      obtain ⟨htruthful, htake⟩ := Entry.read_eq_ok_iff.mp hread
      have hwhole : Entry.read payload = .ok (entry, rest ++ payload.drop cut) := by
        refine Entry.read_eq_ok_iff.mpr ⟨htruthful, ?_⟩
        rw [← List.append_assoc, ← htake, List.take_append_drop]
      have hrest := ih (rest ++ payload.drop cut) rest.length (Nat.le_of_succ_le_succ hfewer)
      rw [List.take_left] at hrest
      rw [decode_of_read_ok hread, decode_of_read_ok hwhole]
      exact (List.prefix_append_right_inj _).mpr hrest

/-- **A bad entry costs only itself.** Each entry that was written says what it says on its own,
what comes behind the entries is decoded as if it stood alone, and neither a payload that is cut off
nor a smaller count changes a value in front. -/
theorem decode_local :
    (∀ entries : List Entry, (∀ entry ∈ entries, entry.Built) → ∀ (suffix : Bytes) (count : Nat),
      ∃ results, List.Forall₂ Entry.Says (entries.take count) results ∧
        decode (entries.flatMap Entry.encode ++ suffix) count =
          ofResults results ++ (decode suffix (count - entries.length)).shifted
            (entries.flatMap Entry.encode).length) ∧
      ∀ (payload : Bytes) (cut fewer count : Nat), fewer ≤ count →
        (decode (payload.take cut) fewer).values <+: (decode payload count).values := by
  constructor
  · intro entries hentries suffix count
    refine ⟨(entries.take count).map Reading.ofEntry, ?_,
      decode_append (fun entry hmem => (hentries entry hmem).truthful) suffix count⟩
    rw [List.forall₂_map_right_iff]
    exact List.forall₂_same.mpr fun entry _ => entry.says_ofEntry
  · exact fun payload cut _ _ hfewer => values_decode_take_isPrefix payload cut hfewer

/-- A temperature, an entry of an unknown type, a temperature of one byte, and a power status. -/
def mixedEntries : List Entry :=
  [⟨0x0014, 4, [0, 0, 0xAC, 0x41]⟩, ⟨0x1FFC, 4, [0, 0, 0, 0]⟩, ⟨0x0015, 1, [1]⟩,
    ⟨0x0085, 1, [7]⟩]

/-- Two of the four entries are bad, and what follows them is cut short. -/
theorem decode_local_mixedEntries :
    let payload := mixedEntries.flatMap Entry.encode ++ [0x14, 0x00, 0x01]
    (∃ results, List.Forall₂ Entry.Says mixedEntries results ∧
      decode payload 6 = ofResults results ++ (decode [0x14, 0x00, 0x01] 2).shifted 20) ∧
      (decode payload 6).errors =
        [.unknownParameterType 0x07FF, .valueWidth "Temperature" (.exactly 4) 1,
          .entryDataOutOfBounds 20 4 1] ∧
      (decode (payload.take 19) 5).values <+: (decode payload 6).values := by
  have hbuilt : ∀ entry ∈ mixedEntries, entry.Built := by
    simp only [mixedEntries, List.forall_mem_cons]
    exact ⟨.make 5 .implicit [0, 0, 0xAC, 0x41] (by decide),
      .make 0x07FF .implicit [0, 0, 0, 0] (by decide), .make 5 .oneByte [1] (by decide),
      .named "PowerStatus" [7] (by decide +kernel), List.forall_mem_nil _⟩
  obtain ⟨hentries, hprefix⟩ := decode_local
  exact ⟨hentries mixedEntries hbuilt [0x14, 0x00, 0x01] 6, by decide +kernel,
    hprefix _ 19 5 6 (by decide)⟩

end ReadingList

end SensorGateway
