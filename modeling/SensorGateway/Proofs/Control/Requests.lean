import Mathlib.Data.List.Basic
import SensorGateway.Control.Request
import SensorGateway.Proofs.Envelope
import SensorGateway.Proofs.Parameter.Entries

/-!
# Control requests on the wire

`Writes` is the table of what the requests are written as: the count in the header, whether
something is set, and the body. Every request that is in the table has a frame, which the receiver
takes apart into the same columns (`decodes_back`), and no two lines of it are written alike, but
for one: whoever sets an identity and does not supply any is written like whoever sets the blank one
(`encode_eq_iff`).
-/

namespace SensorGateway

theorem ControlKey.ofByte_toByte (controlType : ControlType) (set : Bool) :
    ofByte (mk controlType.code set).toByte = ⟨controlType.code, set⟩ := by
  cases controlType <;> cases set <;> rfl

namespace ControlRequest

def flagOf (set : Bool) : UInt8 :=
  if set then 1 else 0

/-- What is written for a request that makes sense. -/
inductive Writes : ControlRequest → UInt8 → Bool → Bytes → Prop where
  | reset : Writes .reset 0 false []
  | time (set : Bool) (seconds : UInt32) :
      Writes (.time (flagOf set) seconds) 0 set (Bytes.ofNatLE 4 (if set then seconds.toNat else 0))
  | sensorIdentity (set : Bool) (identity : Option Identity) :
      Writes (.sensorIdentity (flagOf set) identity) 0 set
        (if set then identity.getD Identity.blank else Identity.blank).bytes
  | allParameters : Writes (.generalParameters 0 []) 15 false []
  | entries (set : Bool) {entries : List Entry} (hsome : entries ≠ []) (hle : entries.length ≤ 16) :
      Writes (.generalParameters (flagOf set) entries) (UInt8.ofNat (entries.length % 16)) set
        (entries.flatMap Entry.encode)
  | monitoringDataQuery : Writes .monitoringDataQuery 15 false []
  | alarmParametersQuery : Writes .alarmParametersQuery 15 false []

variable {request : ControlRequest} {target : Identity} {count : UInt8} {set : Bool} {body : Bytes}

theorem checkFlag_flagOf (set : Bool) : checkFlag (flagOf set) = .ok set := by
  cases set <;> rfl

theorem eq_flagOf_of_checkFlag {flag : UInt8} (h : checkFlag flag = .ok set) :
    flag = flagOf set := by
  unfold checkFlag at h
  split_ifs at h with hquery hset
  · cases h
    exact hquery
  · cases h
    exact hset

theorem checkFlag_of_ne {flag : UInt8} (hquery : flag ≠ 0) (hset : flag ≠ 1) :
    checkFlag flag = .error (.invalidFlag flag) := by
  rw [checkFlag, if_neg hquery, if_neg hset]

theorem Writes.toFrame_eq (h : request.Writes count set body) (target : Identity) :
    request.toFrame target = .ok (frame target count request.controlType set body) := by
  cases h with
  | reset | allParameters | monitoringDataQuery | alarmParametersQuery => rfl
  | time set seconds =>
    simp only [toFrame, checkFlag_flagOf]
    rfl
  | sensorIdentity set identity =>
    simp only [toFrame, checkFlag_flagOf]
    rfl
  | @entries set entries hsome hle =>
    have hmany : ¬ maximumEntries < entries.length := Nat.not_lt.mpr hle
    simp only [toFrame, checkFlag_flagOf, List.isEmpty_eq_false_iff.mpr hsome, hmany]
    rfl

theorem exists_writes_of_toFrame {written : Frame} (h : request.toFrame target = .ok written) :
    ∃ count set body, request.Writes count set body := by
  cases request with
  | reset => exact ⟨_, _, _, .reset⟩
  | time flag seconds =>
    cases hflag : checkFlag flag with
    | error => simp [toFrame, hflag, bind, Except.bind] at h
    | ok set =>
      rw [eq_flagOf_of_checkFlag hflag]
      exact ⟨_, _, _, .time set seconds⟩
  | sensorIdentity flag identity =>
    cases hflag : checkFlag flag with
    | error => simp [toFrame, hflag, bind, Except.bind] at h
    | ok set =>
      rw [eq_flagOf_of_checkFlag hflag]
      exact ⟨_, _, _, .sensorIdentity set identity⟩
  | generalParameters flag entries =>
    cases hflag : checkFlag flag with
    | error => simp [toFrame, hflag, bind, Except.bind] at h
    | ok set =>
      have heq := eq_flagOf_of_checkFlag hflag
      subst heq
      by_cases hsome : entries = []
      · subst hsome
        cases set with
        | false => exact ⟨_, _, _, .allParameters⟩
        | true => simp [toFrame, hflag, bind, Except.bind] at h
      · by_cases hle : entries.length ≤ 16
        · exact ⟨_, _, _, .entries set hsome hle⟩
        · have hmany : maximumEntries < entries.length := Nat.lt_of_not_le hle
          simp [toFrame, hflag, bind, Except.bind, hsome, hmany] at h
  | monitoringDataQuery => exact ⟨_, _, _, .monitoringDataQuery⟩
  | alarmParametersQuery => exact ⟨_, _, _, .alarmParametersQuery⟩

theorem Writes.encode_eq (h : request.Writes count set body) (target : Identity) :
    request.encode target = .ok (frame target count request.controlType set body).encode := by
  rw [encode, h.toFrame_eq target]
  rfl

theorem exists_writes_of_encode {bytes : Bytes} (h : request.encode target = .ok bytes) :
    ∃ count set body, request.Writes count set body ∧
      bytes = (frame target count request.controlType set body).encode := by
  cases hframe : request.toFrame target with
  | error =>
    rw [encode, hframe] at h
    cases h
  | ok written =>
    obtain ⟨count, set, body, hwrites⟩ := exists_writes_of_toFrame hframe
    rw [hwrites.encode_eq target, Except.ok.injEq] at h
    exact ⟨count, set, body, hwrites, h.symm⟩

/-! ### The receiver's view -/

def message (target : Identity) (count : UInt8) (controlType : ControlType) (set : Bool)
    (body : Bytes) : ControlMessage :=
  ⟨target, count % 16, .controlRequest, ⟨controlType.code, set⟩, body⟩

theorem decode_frame (target : Identity) (count : UInt8) (controlType : ControlType) (set : Bool)
    (body : Bytes) :
    Frame.decode (frame target count controlType set body).encode =
      .ok (frame target count controlType set body) :=
  Frame.decode_encode_make ..

theorem ofFrame_frame (target : Identity) (count : UInt8) (controlType : ControlType) (set : Bool)
    (body : Bytes) :
    ControlMessage.ofFrame (frame target count controlType set body) =
      .ok (message target count controlType set body) := by
  unfold ControlMessage.ofFrame
  dsimp only [frame, Frame.make]
  rw [ControlKey.ofByte_toByte]
  rfl

def flag? : ControlRequest → Option UInt8
  | time flag _ | sensorIdentity flag _ | generalParameters flag _ => some flag
  | reset | monitoringDataQuery | alarmParametersQuery => none

/-- The entries in a request, which only one about general parameters has. -/
def entries : ControlRequest → List Entry
  | generalParameters _ entries => entries
  | _ => []

/-- The flag is a query's or a set's, and the number of entries is one that can be asked for. -/
def Admissible : ControlRequest → Prop
  | time flag _ | sensorIdentity flag _ => flag = 0 ∨ flag = 1
  | generalParameters flag entries =>
    (flag = 0 ∨ flag = 1) ∧
      ((1 ≤ entries.length ∧ entries.length ≤ 16) ∨ (entries = [] ∧ flag = 0))
  | reset | monitoringDataQuery | alarmParametersQuery => True

/-- The body says what the request asks to be set. -/
def Conveys : ControlRequest → Bytes → Prop
  | time flag seconds, body => body = Bytes.ofNatLE 4 (if flag = 1 then seconds.toNat else 0)
  | sensorIdentity flag identity, body =>
    (flag = 0 → body = List.replicate 6 0) ∧
      (flag = 1 → ∀ supplied, identity = some supplied → body = supplied.bytes)
  | generalParameters _ entries, body => body = entries.flatMap Entry.encode
  | reset, body | monitoringDataQuery, body | alarmParametersQuery, body => body = []

/-- How many entries a header announces: the count of sixteen wraps to zero. -/
def announced (count : UInt8) : Nat :=
  if count = 0 then 16 else count.toNat

/-- The receiver finds the request in the frame, and the entries in its body. -/
structure Arrives (request : ControlRequest) (target : Identity) (frame : Frame)
    (message : ControlMessage) : Prop where
  identity_eq : frame.identity = target
  fragmented_eq : frame.fragmented = false
  packetType_eq : frame.packetType = .controlRequest
  kind_eq : message.kind? = some request.controlType
  flag_eq : message.flag = request.flag?.getD 0
  conveys : request.Conveys message.body
  items_eq : request.entries ≠ [] →
    (EntryReader.start message.body (announced frame.paramCount)).items = request.entries.map .ok
  /-- The query for everything announces fifteen entries and has none, which a reader of its body
  finds out at once. -/
  items_of_all : ∀ flag, request = .generalParameters flag [] →
    (EntryReader.start message.body (announced frame.paramCount)).items =
      [.error (.entryHeadOutOfBounds 0)]
  offset_eq : ∀ flag entries, request = .generalParameters flag entries →
    (EntryReader.start message.body (announced frame.paramCount)).finish.offset =
      message.body.length

theorem Writes.flag_eq (h : request.Writes count set body) :
    flagOf set = request.flag?.getD 0 := by
  cases h <;> rfl

theorem Writes.conveys (h : request.Writes count set body) : request.Conveys body := by
  cases h with
  | reset | allParameters | monitoringDataQuery | alarmParametersQuery => rfl
  | time set seconds => cases set <;> rfl
  | sensorIdentity set identity =>
    cases set with
    | false => exact ⟨fun _ => rfl, fun himpossible => absurd himpossible (by decide)⟩
    | true =>
      refine ⟨fun himpossible => absurd himpossible (by decide), ?_⟩
      rintro _ supplied rfl
      rfl
  | entries => rfl

theorem admissible_iff_exists_writes :
    request.Admissible ↔ ∃ count set body, request.Writes count set body := by
  constructor
  · intro h
    have hflag : ∀ {flag : UInt8}, flag = 0 ∨ flag = 1 → ∃ set, flag = flagOf set := by
      rintro flag (rfl | rfl)
      · exact ⟨false, rfl⟩
      · exact ⟨true, rfl⟩
    cases request with
    | reset => exact ⟨_, _, _, .reset⟩
    | time flag seconds =>
      obtain ⟨set, rfl⟩ := hflag h
      exact ⟨_, _, _, .time set seconds⟩
    | sensorIdentity flag identity =>
      obtain ⟨set, rfl⟩ := hflag h
      exact ⟨_, _, _, .sensorIdentity set identity⟩
    | generalParameters flag entries =>
      obtain ⟨hvalid, ⟨hpos, hle⟩ | ⟨rfl, rfl⟩⟩ := h
      · obtain ⟨set, rfl⟩ := hflag hvalid
        exact ⟨_, _, _, .entries set (List.ne_nil_of_length_pos hpos) hle⟩
      · exact ⟨_, _, _, .allParameters⟩
    | monitoringDataQuery => exact ⟨_, _, _, .monitoringDataQuery⟩
    | alarmParametersQuery => exact ⟨_, _, _, .alarmParametersQuery⟩
  · rintro ⟨count, set, body, h⟩
    have hflag : flagOf set = 0 ∨ flagOf set = 1 := by
      cases set with
      | false => exact Or.inl rfl
      | true => exact Or.inr rfl
    cases h with
    | reset | monitoringDataQuery | alarmParametersQuery => trivial
    | time | sensorIdentity => exact hflag
    | allParameters => exact ⟨Or.inl rfl, Or.inr ⟨rfl, rfl⟩⟩
    | entries _ hsome hle => exact ⟨hflag, Or.inl ⟨List.length_pos_iff.mpr hsome, hle⟩⟩

theorem announced_ofNat {length : Nat} (hpos : 1 ≤ length) (hle : length ≤ 16) :
    announced (UInt8.ofNat (length % 16) % 16) = length := by
  have hcount : (UInt8.ofNat (length % 16) % 16).toNat = length % 16 := by
    rw [UInt8.toNat_mod, UInt8.toNat_ofNat']
    change length % 16 % 256 % 16 = length % 16
    omega
  have hzero : UInt8.ofNat (length % 16) % 16 = 0 ↔ length % 16 = 0 := by
    rw [← UInt8.toNat_inj, hcount]
    rfl
  rw [announced, hcount]
  split_ifs with h
  · have := hzero.mp h
    omega
  · have := mt hzero.mpr h
    omega

theorem items_start_announced {entries : List Entry} (hsome : entries ≠ [])
    (hle : entries.length ≤ 16) (htruthful : ∀ entry ∈ entries, entry.Truthful) :
    let reader := EntryReader.start (entries.flatMap Entry.encode)
      (announced (UInt8.ofNat (entries.length % 16) % 16))
    reader.items = entries.map .ok ∧
      reader.finish.offset = (entries.flatMap Entry.encode).length := by
  rw [announced_ofNat (List.length_pos_iff.mpr hsome) hle]
  exact EntryReader.items_start_encode htruthful

theorem Writes.arrives (h : request.Writes count set body)
    (hentries : ∀ entry ∈ request.entries, entry.Built) (target : Identity) :
    request.Arrives target (frame target count request.controlType set body)
      (message target count request.controlType set body) := by
  have htruthful : ∀ entry ∈ request.entries, entry.Truthful :=
    fun entry hmem => (hentries entry hmem).truthful
  constructor
  case identity_eq => rfl
  case fragmented_eq => rfl
  case packetType_eq => rfl
  case kind_eq => exact ControlType.ofCode?_code request.controlType
  case flag_eq => exact h.flag_eq
  case conveys => exact h.conveys
  case items_eq =>
    intro hsome
    cases h with
    | entries set _ hle => exact (items_start_announced hsome hle htruthful).1
    | _ => exact absurd rfl hsome
  case items_of_all =>
    rintro flag rfl
    cases h with
    | allParameters => rfl
    | entries _ hsome => exact absurd rfl hsome
  case offset_eq =>
    rintro flag entries rfl
    cases h with
    | allParameters => rfl
    | entries set hsome hle => exact (items_start_announced hsome hle htruthful).2

theorem encode_of_flag_ne {flag : UInt8} (hflag : request.flag? = some flag) (hquery : flag ≠ 0)
    (hset : flag ≠ 1) (target : Identity) :
    request.encode target = .error (.invalidFlag flag) := by
  have hcheck := checkFlag_of_ne hquery hset
  cases request with
  | time | sensorIdentity | generalParameters =>
    cases hflag
    simp only [encode, toFrame, hcheck]
    rfl
  | _ => cases hflag

/-- **What a request is decoded back to.** The requests that have a frame are the admissible ones,
and the receiver finds in it whom the request is for, what it asks and the entries it names. -/
theorem decodes_back (request : ControlRequest) (target : Identity)
    (hentries : ∀ entry ∈ request.entries, entry.Built) :
    ((∃ bytes, request.encode target = .ok bytes) ↔ request.Admissible) ∧
      (∀ flag, request.flag? = some flag → flag ≠ 0 → flag ≠ 1 →
        request.encode target = .error (.invalidFlag flag)) ∧
      (∀ bytes, request.encode target = .ok bytes →
        ∃ frame message, Frame.decode bytes = .ok frame ∧
          ControlMessage.ofFrame frame = .ok message ∧ request.Arrives target frame message) ∧
      reset.encode target = .ok (resetBytes target) ∧
      monitoringDataQuery.encode target = .ok (monitoringDataBytes target) ∧
      alarmParametersQuery.encode target = .ok (alarmParametersBytes target) := by
  refine ⟨?_, ?_, ?_, rfl, rfl, rfl⟩
  · rw [admissible_iff_exists_writes]
    constructor
    · rintro ⟨bytes, hencode⟩
      obtain ⟨count, set, body, hwrites, _⟩ := exists_writes_of_encode hencode
      exact ⟨count, set, body, hwrites⟩
    · rintro ⟨count, set, body, hwrites⟩
      exact ⟨_, hwrites.encode_eq target⟩
  · intro flag hflag hquery hset
    exact encode_of_flag_ne hflag hquery hset target
  · intro bytes hencode
    obtain ⟨count, set, body, hwrites, rfl⟩ := exists_writes_of_encode hencode
    exact ⟨_, _, decode_frame .., ofFrame_frame .., hwrites.arrives hentries target⟩

def powerStatus : Entry :=
  ⟨0x0085, 1, [1]⟩

theorem built_of_mem_replicate {entry : Entry} {times : Nat}
    (hmem : entry ∈ List.replicate times powerStatus) : entry.Built := by
  rw [List.eq_of_mem_replicate hmem]
  exact .named "PowerStatus" [1] (by decide +kernel)

/-- Sixteen entries are announced by a count of zero, and all of them are found. -/
theorem decodes_back_sixteenEntries :
    ∃ frame message,
      (generalParameters 1 (List.replicate 16 powerStatus)).toFrame default = .ok frame ∧
        frame.paramCount = 0 ∧ ControlMessage.ofFrame frame = .ok message ∧
        (EntryReader.start message.body 16).items = List.replicate 16 (.ok powerStatus) := by
  have hbuilt : ∀ entry ∈ (generalParameters 1 (List.replicate 16 powerStatus)).entries,
      entry.Built := fun _ => built_of_mem_replicate
  have hencode : (generalParameters 1 (List.replicate 16 powerStatus)).encode default =
      .ok (frame default 0 .generalParameters true
        (entriesBody (List.replicate 16 powerStatus))).encode := rfl
  obtain ⟨written, message, hdecode, hmessage, harrives⟩ :=
    (decodes_back _ default hbuilt).2.2.1 _ hencode
  have hwritten := (decode_frame ..).symm.trans hdecode
  rw [Except.ok.injEq] at hwritten
  subst hwritten
  exact ⟨_, message, rfl, rfl, hmessage, harrives.items_eq (by decide)⟩

/-- A reader of the fifteen entries that the query for everything announces finds none, but neither
does it find nothing. -/
theorem not_forall_items_eq :
    ¬ ∀ (request : ControlRequest) (target : Identity) (bytes : Bytes) (frame : Frame)
      (message : ControlMessage), (∀ entry ∈ request.entries, entry.Built) →
        request.controlType = .generalParameters → request.encode target = .ok bytes →
          Frame.decode bytes = .ok frame → ControlMessage.ofFrame frame = .ok message →
            (EntryReader.start message.body (announced frame.paramCount)).items =
              request.entries.map .ok := by
  intro hall
  have hitems := hall (generalParameters 0 []) default _ _ _ (List.forall_mem_nil _) rfl rfl
    (decode_frame ..) (ofFrame_frame ..)
  cases hitems

/-! ### Requests that are written alike -/

/-- The requests ask for the same: whatever a query carries is not looked at. -/
inductive AsksLike : ControlRequest → ControlRequest → Prop where
  | reset : AsksLike .reset .reset
  | time (flag : UInt8) {left right : UInt32} (hset : flag = 1 → left = right) :
      AsksLike (.time flag left) (.time flag right)
  | sensorIdentity (flag : UInt8) {left right : Option Identity} (hset : flag = 1 → left = right) :
      AsksLike (.sensorIdentity flag left) (.sensorIdentity flag right)
  | generalParameters (flag : UInt8) (entries : List Entry) :
      AsksLike (.generalParameters flag entries) (.generalParameters flag entries)
  | monitoringDataQuery : AsksLike .monitoringDataQuery .monitoringDataQuery
  | alarmParametersQuery : AsksLike .alarmParametersQuery .alarmParametersQuery

/-- One request sets an identity without supplying any, where the other supplies the blank one. -/
def LeavesBlank (left right : ControlRequest) : Prop :=
  left = .sensorIdentity 1 none ∧ right = .sensorIdentity 1 (some Identity.blank)

variable {left right : ControlRequest}

theorem message_inj {other : UInt8} {leftType rightType : ControlType} {leftSet rightSet : Bool}
    {leftBody rightBody : Bytes}
    (heq : (frame target count leftType leftSet leftBody).encode =
      (frame target other rightType rightSet rightBody).encode) :
    leftType = rightType ∧ leftSet = rightSet ∧ leftBody = rightBody := by
  have hframe : frame target count leftType leftSet leftBody =
      frame target other rightType rightSet rightBody := by
    have hdecode := decode_frame target count leftType leftSet leftBody
    rw [heq, decode_frame, Except.ok.injEq] at hdecode
    exact hdecode.symm
  have hmessage := ofFrame_frame target count leftType leftSet leftBody
  rw [hframe, ofFrame_frame, Except.ok.injEq, message, message, ControlMessage.mk.injEq,
    ControlKey.mk.injEq] at hmessage
  obtain ⟨-, -, -, ⟨hcode, hset⟩, hbody⟩ := hmessage
  refine ⟨?_, hset.symm, hbody.symm⟩
  have htype := congrArg ControlType.ofCode? hcode
  rw [ControlType.ofCode?_code, ControlType.ofCode?_code, Option.some.injEq] at htype
  exact htype.symm

theorem seconds_inj {seconds other : UInt32}
    (heq : Bytes.ofNatLE 4 seconds.toNat = Bytes.ofNatLE 4 other.toNat) : seconds = other := by
  have hread := congrArg Bytes.toNatLE heq
  rw [Bytes.toNatLE_ofNatLE, Bytes.toNatLE_ofNatLE] at hread
  apply UInt32.toNat_inj.mp
  rwa [Nat.mod_eq_of_lt seconds.toNat_lt, Nat.mod_eq_of_lt other.toNat_lt] at hread

/-- What is set can be told from the body, unless it is an identity that has been left out. -/
theorem identity_cases {identity other : Option Identity}
    (heq : (identity.getD Identity.blank).bytes = (other.getD Identity.blank).bytes) :
    identity = other ∨ (identity = none ∧ other = some Identity.blank) ∨
      (other = none ∧ identity = some Identity.blank) := by
  have hsame := Identity.ext_bytes heq
  cases identity with
  | none =>
    cases other with
    | none => exact Or.inl rfl
    | some supplied => exact Or.inr (Or.inl ⟨rfl, congrArg some hsame.symm⟩)
  | some supplied =>
    cases other with
    | none => exact Or.inr (Or.inr ⟨rfl, congrArg some hsame⟩)
    | some another => exact Or.inl (congrArg some hsame)

theorem Writes.asksLike {other : UInt8} {otherBody : Bytes} (hleft : left.Writes count set body)
    (hright : right.Writes other set otherBody) (htype : left.controlType = right.controlType)
    (hbody : body = otherBody) (hentries : ∀ entry ∈ left.entries, entry.Truthful)
    (hothers : ∀ entry ∈ right.entries, entry.Truthful) :
    AsksLike left right ∨ LeavesBlank left right ∨ LeavesBlank right left := by
  cases hleft with
  | reset =>
    cases hright with
    | reset => exact Or.inl .reset
    | _ => cases htype
  | time set seconds =>
    cases hright with
    | time set others =>
      refine Or.inl (.time _ fun hflag => ?_)
      cases set with
      | false => exact absurd hflag (by decide)
      | true => exact seconds_inj hbody
    | _ => cases htype
  | sensorIdentity set identity =>
    cases hright with
    | sensorIdentity set another =>
      cases set with
      | false => exact Or.inl (.sensorIdentity _ fun hflag => absurd hflag (by decide))
      | true =>
        rcases identity_cases hbody with rfl | ⟨rfl, rfl⟩ | ⟨rfl, rfl⟩
        · exact Or.inl (.sensorIdentity _ fun _ => rfl)
        · exact Or.inr (Or.inl ⟨rfl, rfl⟩)
        · exact Or.inr (Or.inr ⟨rfl, rfl⟩)
    | _ => cases htype
  | allParameters =>
    cases hright with
    | allParameters => exact Or.inl (.generalParameters 0 [])
    | entries _ hsome =>
      -- both may announce fifteen entries, but only one body is empty
      exact absurd (Entry.flatMap_encode_inj (List.forall_mem_nil _) hothers hbody).symm hsome
    | _ => cases htype
  | entries set hsome =>
    cases hright with
    | allParameters =>
      exact absurd (Entry.flatMap_encode_inj hentries (List.forall_mem_nil _) hbody) hsome
    | entries =>
      obtain rfl := Entry.flatMap_encode_inj hentries hothers hbody
      exact Or.inl (.generalParameters _ _)
    | _ => cases htype
  | monitoringDataQuery =>
    cases hright with
    | monitoringDataQuery => exact Or.inl .monitoringDataQuery
    | _ => cases htype
  | alarmParametersQuery =>
    cases hright with
    | alarmParametersQuery => exact Or.inl .alarmParametersQuery
    | _ => cases htype

theorem encode_of_asksLike (h : AsksLike left right) (target : Identity) :
    left.encode target = right.encode target := by
  cases h with
  | time flag hset | sensorIdentity flag hset =>
    by_cases hone : flag = 1
    · rw [hset hone]
    · by_cases hzero : flag = 0
      · subst hzero
        rfl
      · rw [encode_of_flag_ne rfl hzero hone target, encode_of_flag_ne rfl hzero hone target]
  | _ => rfl

theorem encode_of_leavesBlank (h : LeavesBlank left right) (target : Identity) :
    left.encode target = right.encode target := by
  obtain ⟨rfl, rfl⟩ := h
  rfl

/-- **The bytes of a request determine what was asked**, except that whoever sets an identity
without supplying any is taken for whoever sets the blank one. -/
theorem encode_eq_iff {bytes : Bytes} (hencode : left.encode target = .ok bytes)
    (hentries : ∀ entry ∈ left.entries, entry.Built)
    (hothers : ∀ entry ∈ right.entries, entry.Built) :
    right.encode target = .ok bytes ↔
      AsksLike left right ∨ LeavesBlank left right ∨ LeavesBlank right left := by
  constructor
  · intro hother
    obtain ⟨count, set, body, hleft, rfl⟩ := exists_writes_of_encode hencode
    obtain ⟨other, otherSet, otherBody, hright, heq⟩ := exists_writes_of_encode hother
    obtain ⟨htype, rfl, hbody⟩ := message_inj heq
    exact hleft.asksLike hright htype hbody (fun entry hmem => (hentries entry hmem).truthful)
      fun entry hmem => (hothers entry hmem).truthful
  · rintro (halike | hblank | hblank)
    · rw [← encode_of_asksLike halike target, hencode]
    · rw [← encode_of_leavesBlank hblank target, hencode]
    · rw [encode_of_leavesBlank hblank target, hencode]

/-- A query for fifteen parameters is announced like the query for all of them, and is another one
all the same. -/
theorem encode_eq_iff_fifteenEntries :
    ∃ bytes, (generalParameters 0 []).encode default = .ok bytes ∧
      (generalParameters 0 (List.replicate 15 powerStatus)).encode default ≠ .ok bytes := by
  have hbuilt : ∀ entry ∈ (generalParameters 0 (List.replicate 15 powerStatus)).entries,
      entry.Built := fun _ => built_of_mem_replicate
  have hencode : (generalParameters 0 []).encode default =
      .ok (frame default 15 .generalParameters false []).encode := rfl
  refine ⟨_, hencode, fun hother => ?_⟩
  rcases (encode_eq_iff hencode (List.forall_mem_nil _) hbuilt).mp hother with
    halike | ⟨himpossible, _⟩ | ⟨himpossible, _⟩
  · cases halike
  · cases himpossible
  · cases himpossible

/-- Whoever sets an identity without supplying any sets one all the same. -/
theorem not_forall_asksLike :
    ¬ ∀ (left right : ControlRequest) (target : Identity) (bytes : Bytes),
      (∀ entry ∈ left.entries, entry.Built) → (∀ entry ∈ right.entries, entry.Built) →
        left.encode target = .ok bytes → right.encode target = .ok bytes →
          AsksLike left right := by
  intro hall
  cases hall (sensorIdentity 1 none) (sensorIdentity 1 (some Identity.blank)) default _
    (List.forall_mem_nil _) (List.forall_mem_nil _) rfl rfl with
  | sensorIdentity _ hset => cases hset rfl

end ControlRequest

end SensorGateway
