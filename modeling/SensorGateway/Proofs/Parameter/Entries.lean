import Mathlib.Algebra.GroupWithZero.Nat
import Mathlib.Data.List.Basic
import SensorGateway.Parameter.Reader

/-!
# Parameter lists, written and read

Two bits in the head of an entry say which form its length field has, and the length field says how
long its data is. So an entry that tells the truth about its data can be taken from the front of
whatever begins with its bytes, and a list of them can be taken off one by one. The makers of
entries build no other ones (`Built.truthful`), and the reader that walks over what has been written
finds the entries again, each at the offset where it was put (`steps_encode`).
-/

namespace SensorGateway

namespace LengthFlag

@[simp]
theorem length_encode (flag : LengthFlag) (length : Nat) :
    (flag.encode length).length = flag.fieldLength := by
  cases flag <;> simp [encode, fieldLength]

theorem decode_encode {flag : LengthFlag} {length : Nat} (h : flag.admits length = true) :
    flag.decode (flag.encode length) = length := by
  cases flag with
  | implicit =>
    have hlength : length = 4 := by simpa [admits] using h
    exact hlength.symm
  | oneByte =>
    have hle : length ≤ 0xFF := of_decide_eq_true h
    exact (Bytes.toNatLE_ofNatLE 1 length).trans (Nat.mod_eq_of_lt (Nat.lt_succ_of_le hle))
  | twoBytes =>
    have hle : length ≤ 0xFFFF := of_decide_eq_true h
    exact (Bytes.toNatLE_ofNatLE 2 length).trans (Nat.mod_eq_of_lt (Nat.lt_succ_of_le hle))
  | threeBytes =>
    have hle : length ≤ 0xFFFFFF := of_decide_eq_true h
    exact (Bytes.toNatBE_ofNatBE 3 length).trans (Nat.mod_eq_of_lt (Nat.lt_succ_of_le hle))

theorem ofBits_head (code : UInt16) (flag : LengthFlag) : ofBits (code * 4 + flag.bits) = flag := by
  have hbits : (code * 4 + flag.bits).toNat % 4 = flag.bits.toNat := by
    rw [UInt16.toNat_add, UInt16.toNat_mul]
    cases flag <;> simp [bits]
  rw [ofBits, hbits]
  cases flag <;> rfl

end LengthFlag

namespace Entry

/-- The length announced is that of the data, and the length field can announce it. -/
structure Truthful (entry : Entry) : Prop where
  length_eq : entry.length = entry.data.length
  admits : entry.flag.admits entry.data.length = true

/-- The entry comes from one of the makers of entries. -/
inductive Built (entry : Entry) : Prop where
  | make (typeCode : UInt16) (flag : LengthFlag) (data : Bytes)
      (hmake : Entry.make typeCode flag data = .ok entry)
  | named (name : String) (data : Bytes) (hnamed : Entry.named name data = .ok entry)

variable {entry : Entry} {entries : List Entry}

theorem truthful_of_make {typeCode : UInt16} {flag : LengthFlag} {data : Bytes}
    (hmake : make typeCode flag data = .ok entry) : entry.Truthful := by
  unfold make at hmake
  dsimp only at hmake
  split_ifs at hmake with hadmits
  cases hmake
  exact ⟨rfl, (congrArg (LengthFlag.admits · data.length) (LengthFlag.ofBits_head _ flag)).trans
    hadmits⟩

theorem exists_make_of_named {name : String} {data : Bytes}
    (hnamed : named name data = .ok entry) :
    ∃ typeCode flag, make typeCode flag data = .ok entry := by
  unfold named at hnamed
  split at hnamed
  · cases hnamed
  · split at hnamed
    · cases hnamed
    · exact ⟨_, _, hnamed⟩

theorem Built.truthful (h : entry.Built) : entry.Truthful := by
  cases h with
  | make typeCode flag data hmake => exact truthful_of_make hmake
  | named name data hnamed =>
    obtain ⟨typeCode, flag, hmake⟩ := exists_make_of_named hnamed
    exact truthful_of_make hmake

/-! ### One entry -/

@[simp]
theorem length_encode (entry : Entry) : entry.encode.length = entry.encodedLength := by
  simp [encode, encodedLength, Nat.add_assoc]

theorem encode_ne_nil (entry : Entry) : entry.encode ≠ [] := by
  refine List.ne_nil_of_length_pos ?_
  rw [length_encode, encodedLength]
  omega

theorem ofNat_toNatLE_head (head : UInt16) :
    UInt16.ofNat (Bytes.toNatLE (Bytes.ofNatLE 2 head.toNat)) = head := by
  rw [Bytes.toNatLE_ofNatLE]
  apply UInt16.toNat_inj.mp
  have hlt := head.toNat_lt
  rw [UInt16.toNat_ofNat']
  change _ % 65536 % 65536 = _
  omega

/-- The head gives the form of the length field away, the form its extent, and the field that of the
data. -/
theorem read_append {head : UInt16} {field : Bytes}
    (hfield : field.length = (LengthFlag.ofBits head).fieldLength) (tail : Bytes) :
    read (Bytes.ofNatLE 2 head.toNat ++ field ++ tail) =
      let length := (LengthFlag.ofBits head).decode field
      if tail.length < length then .error (.data length tail.length)
      else .ok (⟨head, length, tail.take length⟩, tail.drop length) := by
  obtain ⟨low, high, hhead⟩ : ∃ low high, Bytes.ofNatLE 2 head.toNat = [low, high] :=
    ⟨_, _, rfl⟩
  have hread : UInt16.ofNat (Bytes.toNatLE [low, high]) = head := by
    rw [← hhead, ofNat_toNatLE_head]
  rw [hhead, List.append_assoc, List.cons_append, List.cons_append, List.nil_append, read]
  simp only [hread, List.take_left' hfield, List.drop_left' hfield, hfield, Nat.lt_irrefl,
    if_false]

/-- An entry is read back from whatever its bytes are followed by. -/
theorem Truthful.read_encode (h : entry.Truthful) (rest : Bytes) :
    read (entry.encode ++ rest) = .ok (entry, rest) := by
  have hlength : (LengthFlag.ofBits entry.head).decode (entry.flag.encode entry.length) =
      entry.data.length := by
    rw [← flag, LengthFlag.decode_encode (h.length_eq ▸ h.admits), h.length_eq]
  rw [encode, List.append_assoc, read_append (LengthFlag.length_encode entry.flag entry.length)]
  simp only [hlength, List.take_left, List.drop_left, List.length_append]
  rw [if_neg (by omega), ← h.length_eq]

/-! ### Several entries -/

theorem length_flatMap_encode (entries : List Entry) :
    (entries.flatMap encode).length = (entries.map encodedLength).sum := by
  rw [List.length_flatMap]
  exact congrArg List.sum (List.map_congr_left fun entry _ => length_encode entry)

theorem flatMap_encode_inj {others : List Entry} (hentries : ∀ entry ∈ entries, entry.Truthful)
    (hothers : ∀ entry ∈ others, entry.Truthful)
    (heq : entries.flatMap encode = others.flatMap encode) : entries = others := by
  induction entries generalizing others with
  | nil =>
    cases others with
    | nil => rfl
    | cons other rest =>
      rw [List.flatMap_nil, List.flatMap_cons, eq_comm, List.append_eq_nil_iff] at heq
      exact absurd heq.1 other.encode_ne_nil
  | cons entry rest ih =>
    cases others with
    | nil =>
      rw [List.flatMap_nil, List.flatMap_cons, List.append_eq_nil_iff] at heq
      exact absurd heq.1 entry.encode_ne_nil
    | cons other more =>
      rw [List.flatMap_cons, List.flatMap_cons] at heq
      have hread := (hentries entry List.mem_cons_self).read_encode (rest.flatMap encode)
      rw [heq, (hothers other List.mem_cons_self).read_encode, Except.ok.injEq, Prod.mk.injEq]
        at hread
      obtain ⟨rfl, hrest⟩ := hread
      rw [ih (fun another hmem => hentries another (List.mem_cons_of_mem _ hmem))
        (fun another hmem => hothers another (List.mem_cons_of_mem _ hmem)) hrest.symm]

end Entry

namespace EntryReader

variable {reader after : EntryReader} {entry : Entry} {entries : List Entry} {rest : Bytes}

theorem steps_eq_cons {item : Except Failure Entry} (hnext : reader.next? = some (item, after)) :
    reader.steps = (item, after) :: after.steps := by
  have hremaining : reader.remaining = after.remaining + 1 := by
    unfold next? at hnext
    split_ifs at hnext with hstopped
    rw [Bool.or_eq_true, not_or, beq_iff_eq] at hstopped
    have hpos := Nat.pos_of_ne_zero hstopped.2
    split at hnext <;>
      · cases hnext
        dsimp only
        omega
  unfold steps
  rw [hremaining, stepsWithin, hnext]

/-- The reader that stands behind entries in front of it. -/
def past (reader : EntryReader) (entries : List Entry) : EntryReader :=
  { reader with
    rest := reader.rest.drop (entries.map Entry.encodedLength).sum
    offset := reader.offset + (entries.map Entry.encodedLength).sum
    remaining := reader.remaining - entries.length }

theorem past_cons (reader : EntryReader) (entry : Entry) (entries : List Entry) :
    reader.past (entry :: entries) = (reader.past [entry]).past entries := by
  simp [past, List.drop_drop, Nat.sub_sub, Nat.add_comm, Nat.add_left_comm]

theorem next?_of_truthful (h : entry.Truthful) (hrest : reader.rest = entry.encode ++ rest)
    (hintact : reader.broken = false) (hmore : 0 < reader.remaining) :
    reader.next? = some (.ok entry, reader.past [entry]) := by
  have hremaining : (reader.remaining == 0) = false := by
    rw [beq_eq_false_iff_ne]
    omega
  have hdrop : reader.rest.drop entry.encodedLength = rest := by
    rw [hrest, List.drop_left' entry.length_encode]
  simp only [next?, hintact, hremaining, Bool.or_self, Bool.false_eq_true, if_false]
  rw [hrest, h.read_encode]
  simp [past, hdrop, hintact]

/-- Truthful entries in front of a reader are found one by one, and then it reads what comes behind
them. -/
theorem steps_of_truthful (hentries : ∀ entry ∈ entries, entry.Truthful)
    (hrest : reader.rest = entries.flatMap Entry.encode ++ rest) (hintact : reader.broken = false)
    (hmore : entries.length ≤ reader.remaining) :
    (∀ position (hposition : position < entries.length), reader.steps[position]? =
        some (.ok entries[position], reader.past (entries.take (position + 1)))) ∧
      reader.steps.drop entries.length = (reader.past entries).steps := by
  induction entries generalizing reader with
  | nil => exact ⟨fun _ hposition => absurd hposition (Nat.not_lt_zero _), rfl⟩
  | cons entry entries ih =>
    rw [List.flatMap_cons, List.append_assoc] at hrest
    rw [List.length_cons] at hmore
    have hsteps := steps_eq_cons (next?_of_truthful (hentries entry List.mem_cons_self) hrest
      hintact (by omega))
    have hnext : (reader.past [entry]).rest = entries.flatMap Entry.encode ++ rest := by
      have hlength : ([entry].map Entry.encodedLength).sum = entry.encode.length := by simp
      rw [past, hrest, hlength, List.drop_left]
    obtain ⟨hfound, hbehind⟩ := ih (fun other hmem => hentries other (List.mem_cons_of_mem _ hmem))
      hnext hintact (Nat.le_sub_one_of_lt hmore)
    rw [hsteps]
    constructor
    · intro position hposition
      cases position with
      | zero => rfl
      | succ position =>
        rw [List.getElem?_cons_succ, hfound position (Nat.lt_of_succ_lt_succ hposition),
          List.take_succ_cons, past_cons reader entry (entries.take _)]
        rfl
    · rw [List.length_cons, List.drop_succ_cons, hbehind, past_cons reader entry entries]

theorem map_fst_take_steps (hentries : ∀ entry ∈ entries, entry.Truthful)
    (hrest : reader.rest = entries.flatMap Entry.encode ++ rest) (hintact : reader.broken = false)
    (hmore : entries.length ≤ reader.remaining) :
    (reader.steps.take entries.length).map Prod.fst = entries.map .ok := by
  have hfound := (steps_of_truthful hentries hrest hintact hmore).1
  apply List.ext_getElem?
  intro position
  rw [List.getElem?_map, List.getElem?_map, List.getElem?_take]
  split_ifs with hposition
  · rw [hfound position hposition, List.getElem?_eq_getElem hposition]
    rfl
  · rw [List.getElem?_eq_none (Nat.not_lt.mp hposition)]
    rfl

theorem items_start_encode (hentries : ∀ entry ∈ entries, entry.Truthful) :
    let reader := start (entries.flatMap Entry.encode) entries.length
    reader.items = entries.map .ok ∧
      reader.finish.offset = (entries.flatMap Entry.encode).length := by
  intro reader
  have hrest : reader.rest = entries.flatMap Entry.encode ++ [] := (List.append_nil _).symm
  obtain ⟨hfound, hbehind⟩ := steps_of_truthful hentries hrest rfl (Nat.le_refl _)
  have hnone : reader.steps.drop entries.length = [] := by
    have hremaining : (reader.past entries).remaining = 0 := Nat.sub_self _
    rw [hbehind, steps, hremaining, stepsWithin]
  have hitems : reader.steps.map Prod.fst = entries.map .ok := by
    rw [← map_fst_take_steps hentries hrest rfl (Nat.le_refl _),
      List.take_of_length_le (List.drop_eq_nil_iff.mp hnone)]
  refine ⟨hitems, ?_⟩
  have hlength : reader.steps.length = entries.length := by
    simpa using congrArg List.length hitems
  rw [finish, List.getLast?_eq_getElem?, hlength, Entry.length_flatMap_encode]
  cases entries with
  | nil =>
    rw [List.eq_nil_of_length_eq_zero hlength]
    rfl
  | cons entry rest =>
    have hlast : (entry :: rest).take (rest.length + 1) = entry :: rest :=
      List.take_of_length_le (Nat.le_refl _)
    have hend := hfound rest.length (Nat.lt_succ_self _)
    rw [hlast] at hend
    rw [List.length_cons, Nat.add_sub_cancel, hend]
    exact Nat.zero_add _

/-- **Reading a parameter list undoes writing it.** Whatever follows the entries and however many
more may be read, they come out first, in order, each with the reader at the end of its bytes. -/
theorem steps_encode (hentries : ∀ entry ∈ entries, entry.Built) {count : Nat}
    (hcount : entries.length ≤ count) (suffix : Bytes) :
    let payload := entries.flatMap Entry.encode ++ suffix
    let steps := (start payload count).steps
    (steps.take entries.length).map Prod.fst = entries.map .ok ∧
      ∀ position (hposition : position < entries.length), ∃ after,
        steps[position]? = some (.ok entries[position], after) ∧
          after.offset = ((entries.take (position + 1)).map Entry.encodedLength).sum ∧
          after.offset = ((entries.take (position + 1)).flatMap Entry.encode).length ∧
          after.rest = payload.drop after.offset := by
  intro payload steps
  have htruthful : ∀ entry ∈ entries, entry.Truthful :=
    fun entry hmem => (hentries entry hmem).truthful
  have hrest : (start payload count).rest = entries.flatMap Entry.encode ++ suffix := rfl
  refine ⟨map_fst_take_steps htruthful hrest rfl hcount, ?_⟩
  intro position hposition
  refine ⟨_, (steps_of_truthful htruthful hrest rfl hcount).1 position hposition, ?_, ?_, ?_⟩
  · simp [past, start]
  · rw [Entry.length_flatMap_encode]
    simp [past, start]
  · simp [past, start]

/-- An entry of each form, the last one made by name. -/
def oneOfEachForm : List Entry :=
  [⟨0x0014, 4, [1, 2, 3, 4]⟩, ⟨0x00F2, 2, [5, 6]⟩, ⟨0x00F3, 0, []⟩, ⟨0x0085, 1, [7]⟩]

/-- Something follows that is no entry, and more entries may be read than there are. -/
theorem steps_encode_oneOfEachForm :
    let steps := (start (oneOfEachForm.flatMap Entry.encode ++ [0x14]) 9).steps
    (steps.take 4).map Prod.fst = oneOfEachForm.map .ok ∧
      ∃ after, steps[3]? = some (.ok ⟨0x0085, 1, [7]⟩, after) ∧ after.offset = 21 ∧
        after.rest = [0x14] := by
  have hbuilt : ∀ entry ∈ oneOfEachForm, entry.Built := by
    simp only [oneOfEachForm, List.forall_mem_cons]
    exact ⟨.make 5 .implicit [1, 2, 3, 4] (by decide), .make 0x3C .twoBytes [5, 6] (by decide),
      .make 0x3C .threeBytes [] (by decide), .named "PowerStatus" [7] (by decide +kernel),
      List.forall_mem_nil _⟩
  have hcount : oneOfEachForm.length ≤ 9 := by decide
  obtain ⟨hitems, hsteps⟩ := steps_encode hbuilt hcount [0x14]
  obtain ⟨after, hfound, hoffset, -, hrest⟩ := hsteps 3 (by decide)
  have hend : after.offset = 21 := hoffset
  rw [hend] at hrest
  exact ⟨hitems, after, hfound, hend, hrest⟩

end EntryReader

end SensorGateway
