import SensorGateway.Proofs.Gateway.Recording

/-!
# All or nothing

A reply that has a handler is either refused or taken. `Refuses` lists the reasons for which a
handler refuses one, and nothing has been written by then; `Takes` lists what the handlers do with
the others: what the store gains, what is reported and what is sent (`run_all_or_nothing`).
-/

namespace SensorGateway

/-- The control bytes that a handler is registered for. -/
def ControlHandler.bytes : ControlHandler → List UInt8
  | commonParameters => [2, 3, 4, 5, 6, 7]
  | timestamp => [8, 9]
  | resetAck => [12, 13]
  | resetTrigger => [14]

namespace ControlKey

theorem toByte_mem_bytes {key : ControlKey} {handler : ControlHandler}
    (h : key.handler? = some handler) : key.toByte ∈ handler.bytes := by
  obtain ⟨code, set⟩ := key
  unfold handler? at h
  cases htype : ControlType.ofCode? code with
  | none => simp [htype] at h
  | some type =>
    rw [htype] at h
    rw [ControlType.ofCode?_eq_some_iff.mp htype]
    cases type <;> cases set <;> cases h <;> decide

theorem handler?_ofByte_eq_some_iff {byte : UInt8} {handler : ControlHandler} :
    (ofByte byte).handler? = some handler ↔ byte ∈ handler.bytes := by
  constructor
  · intro h
    have hmem := toByte_mem_bytes h
    rwa [toByte_ofByte] at hmem
  · intro hmem
    cases handler <;>
      simp only [ControlHandler.bytes, List.mem_cons, List.not_mem_nil, or_false] at hmem
    case commonParameters => rcases hmem with rfl | rfl | rfl | rfl | rfl | rfl <;> rfl
    case timestamp | resetAck => rcases hmem with rfl | rfl <;> rfl
    case resetTrigger => exact hmem ▸ rfl

end ControlKey

/-- One store is the other with values of a device written over it. -/
structure Store.Gains (before after : Store) (device : String) (values : ValueMap) : Prop where
  read?_eq : ∀ resource, after.read? device resource =
    (values.get? resource).or (before.read? device resource)
  contains_eq : after.contains device = (before.contains device || !values.entries.isEmpty)
  values?_of_ne : ∀ other, other ≠ device → after.values? other = before.values? other

namespace Store

variable {before after : Store} {device : String} {values : ValueMap}

theorem Gains.refl (store : Store) (device : String) : store.Gains store device Keyed.empty :=
  ⟨fun _ => rfl, (Bool.or_false _).symm, fun _ _ => rfl⟩

theorem Gains.write (h : before.Gains after device values) (resource : String) (value : Value) :
    before.Gains (after.write device resource value) device (values.insert resource value) := by
  constructor
  case read?_eq =>
    intro other
    rw [read?_write, Keyed.get?_insert, h.read?_eq]
    by_cases hresource : other = resource <;> simp [hresource]
  case contains_eq =>
    rw [contains_write, decide_eq_true rfl, Bool.true_or]
    exact (Bool.or_true _).symm
  case values?_of_ne =>
    intro other hother
    rw [values?_write_of_ne _ _ _ hother, h.values?_of_ne other hother]

theorem gains_writeAll (store : Store) (device : String) (assignments : List (String × Value)) :
    store.Gains (store.writeAll device assignments) device
      (ValueMap.ofAssignments assignments) := by
  unfold writeAll
  induction assignments using List.reverseRecOn with
  | nil => exact Gains.refl store device
  | append_singleton rest last ih =>
    rw [List.foldl_concat, ValueMap.ofAssignments_concat]
    exact ih.write last.1 last.2

end Store

namespace Dispatch

variable {directory : Directory} {store : Store} {controlByte : UInt8} {body : Bytes}
  {frame : Frame} {handler : ControlHandler} {failure : Failure} {device : String}

/-- A handler cannot use a reply, and says why. -/
inductive Refuses (directory : Directory) (store : Store) (body : Bytes) (frame : Frame) :
    ControlHandler → Failure → Prop where
  | unknownIdentity {handler : ControlHandler}
      (hdevice : directory.device? frame.identity = none) :
      Refuses directory store body frame handler (.unknownIdentity frame.identity)
  | shortClock {device : String} (hdevice : directory.device? frame.identity = some device)
      (hshort : body.length < 4) :
      Refuses directory store body frame .timestamp (.controlBodyTooShort 4 body.length)
  | noOutcome {device : String} (hdevice : directory.device? frame.identity = some device)
      (hempty : body = []) :
      Refuses directory store body frame .resetAck (.controlBodyTooShort 1 0)
  | missingIdentity {device : String} (hdevice : directory.device? frame.identity = some device)
      (htext : ∀ text target, store.read? device Store.identityResource = some (.text text) →
        Identity.parse text ≠ .ok target) :
      Refuses directory store body frame .resetTrigger (.missingIdentity device)

/-- What a handler makes of a reply of a device: the store afterwards, the report and the frames. -/
inductive Takes (store : Store) (device : String) (body : Bytes) (count : UInt8) :
    ControlHandler → Store → Dispatch → Prop where
  | commonParameters {after : Store} {values : ValueMap} (hunique : values.Unique)
      (hvalues : ∀ name, values.get? name =
        Reading.lastValue? (ReadingList.decode body count.toNat).values name)
      (hgains : store.Gains after device values) :
      Takes store device body count .commonParameters after ⟨some values, []⟩
  | timestamp {after : Store} {first second third fourth : UInt8} {rest : Bytes} {seconds : UInt32}
      (hbody : body = first :: second :: third :: fourth :: rest)
      (hseconds : seconds.toNat = first.toNat + 2 ^ 8 * second.toNat + 2 ^ 16 * third.toNat +
        2 ^ 24 * fourth.toNat)
      (hgains : store.Gains after device
        (Keyed.empty.insert Store.timestampResource (.u32 seconds))) :
      Takes store device body count .timestamp after nothing
  | resetAck {after : Store} {status : UInt8} {rest : Bytes} (hbody : body = status :: rest)
      (hgains : store.Gains after device
        (Keyed.empty.insert Store.resetStatusResource (.u8 status))) :
      Takes store device body count .resetAck after nothing
  | resetTrigger {text : String} {target : Identity} {bytes : Bytes}
      (hread : store.read? device Store.identityResource = some (.text text))
      (hparse : Identity.parse text = .ok target)
      (hencode : ControlRequest.reset.encode target = .ok bytes) :
      Takes store device body count .resetTrigger store ⟨none, [(target, bytes)]⟩

theorem toNat_ofNat_toNatLE (first second third fourth : UInt8) :
    (UInt32.ofNat (Bytes.toNatLE [first, second, third, fourth])).toNat =
      first.toNat + 2 ^ 8 * second.toNat + 2 ^ 16 * third.toNat + 2 ^ 24 * fourth.toNat := by
  have hfirst := first.toNat_lt
  have hsecond := second.toNat_lt
  have hthird := third.toNat_lt
  have hfourth := fourth.toNat_lt
  rw [UInt32.toNat_ofNat']
  simp only [Bytes.toNatLE]
  omega

theorem exists_four_of_le (hlong : 4 ≤ body.length) :
    ∃ first second third fourth rest, body = first :: second :: third :: fourth :: rest := by
  match body, hlong with
  | first :: second :: third :: fourth :: rest, _ => exact ⟨first, second, third, fourth, rest, rfl⟩

theorem run_of_unmapped (h : ∀ handler : ControlHandler, controlByte ∉ handler.bytes) :
    run directory store controlByte body frame = (store, .ok nothing) := by
  have hnone : (ControlKey.ofByte controlByte).handler? = none := by
    rw [Option.eq_none_iff_forall_ne_some]
    exact fun handler heq => h handler (ControlKey.handler?_ofByte_eq_some_iff.mp heq)
  rw [run, hnone]

theorem run_of_refuses (hbyte : controlByte ∈ handler.bytes)
    (h : Refuses directory store body frame handler failure) :
    run directory store controlByte body frame = (store, .error failure) := by
  have hhandler := ControlKey.handler?_ofByte_eq_some_iff.mpr hbyte
  cases h with
  | unknownIdentity hdevice => simp only [run, hhandler, hdevice]
  | shortClock hdevice hshort => simp only [run, hhandler, hdevice, timestamp, if_pos hshort]
  | noOutcome hdevice hempty => simp only [run, hhandler, hdevice, resetAck, hempty]
  | missingIdentity hdevice htext =>
    simp only [run, hhandler, hdevice, resetTrigger, Store.identity?_eq_none_iff.mpr htext]

theorem exists_takes (hbyte : controlByte ∈ handler.bytes)
    (h : ∀ failure, ¬ Refuses directory store body frame handler failure) :
    ∃ device after dispatch, directory.device? frame.identity = some device ∧
      Takes store device body frame.paramCount handler after dispatch ∧
      run directory store controlByte body frame = (after, .ok dispatch) := by
  have hhandler := ControlKey.handler?_ofByte_eq_some_iff.mpr hbyte
  cases hdevice : directory.device? frame.identity with
  | none => exact absurd (.unknownIdentity hdevice) (h _)
  | some device =>
    refine ⟨device, ?_⟩
    cases handler with
    | commonParameters =>
      refine ⟨_, _, rfl, .commonParameters (ValueMap.unique_ofAssignments _)
        (ValueMap.get?_ofAssignments _) (store.gains_writeAll device _), ?_⟩
      simp only [run, hhandler, hdevice, commonParameters]
    | timestamp =>
      by_cases hshort : body.length < 4
      case pos => exact absurd (.shortClock hdevice hshort) (h _)
      obtain ⟨first, second, third, fourth, rest, rfl⟩ :=
        exists_four_of_le (Nat.le_of_not_lt hshort)
      refine ⟨_, _, rfl, .timestamp rfl (toNat_ofNat_toNatLE first second third fourth)
        ((Store.Gains.refl store device).write _ _), ?_⟩
      simp only [run, hhandler, hdevice, timestamp, if_neg hshort]
      rfl
    | resetAck =>
      cases body with
      | nil => exact absurd (.noOutcome hdevice rfl) (h _)
      | cons status rest =>
        refine ⟨_, _, rfl, .resetAck rfl ((Store.Gains.refl store device).write _ _), ?_⟩
        simp only [run, hhandler, hdevice, resetAck]
    | resetTrigger =>
      cases hidentity : store.identity? device with
      | none =>
        exact absurd (.missingIdentity hdevice (Store.identity?_eq_none_iff.mp hidentity)) (h _)
      | some target =>
        obtain ⟨text, hread, hparse⟩ := Store.identity?_eq_some_iff.mp hidentity
        refine ⟨_, _, rfl, .resetTrigger hread hparse rfl, ?_⟩
        simp only [run, hhandler, hdevice, resetTrigger, hidentity]
        rfl

variable (directory store body frame) in
theorem refuses_or_takes (hbyte : controlByte ∈ handler.bytes) :
    (∃ failure, Refuses directory store body frame handler failure ∧
      run directory store controlByte body frame = (store, .error failure)) ∨
    ∃ device after dispatch, directory.device? frame.identity = some device ∧
      Takes store device body frame.paramCount handler after dispatch ∧
      run directory store controlByte body frame = (after, .ok dispatch) := by
  by_cases hrefuses : ∃ failure, Refuses directory store body frame handler failure
  · obtain ⟨failure, hrefuses⟩ := hrefuses
    exact Or.inl ⟨failure, hrefuses, run_of_refuses hbyte hrefuses⟩
  · exact Or.inr (exists_takes hbyte (not_exists.mp hrefuses))

theorem exists_refuses
    (hfailure : (run directory store controlByte body frame).2 = .error failure) :
    ∃ handler : ControlHandler,
      controlByte ∈ handler.bytes ∧ Refuses directory store body frame handler failure := by
  by_cases hmapped : ∃ handler : ControlHandler, controlByte ∈ handler.bytes
  · obtain ⟨handler, hbyte⟩ := hmapped
    rcases refuses_or_takes directory store body frame hbyte with
      ⟨other, hrefuses, hrun⟩ | ⟨_, _, _, _, _, hrun⟩
    · rw [hrun] at hfailure
      cases hfailure
      exact ⟨handler, hbyte, hrefuses⟩
    · rw [hrun] at hfailure
      cases hfailure
  · rw [run_of_unmapped (not_exists.mp hmapped)] at hfailure
    cases hfailure

/-- **A reply is taken or refused, and a refused one leaves no trace.** The failures are those of
`Refuses`, and then, as for a control byte that nobody is registered for, the store is what it was
and nothing is to be reported or sent. Every other reply does what `Takes` says of its handler. -/
theorem run_all_or_nothing (directory : Directory) (store : Store) (controlByte : UInt8)
    (body : Bytes) (frame : Frame) :
    let outcome := run directory store controlByte body frame
    (∀ failure, outcome.2 = .error failure ↔ ∃ handler : ControlHandler,
      controlByte ∈ handler.bytes ∧ Refuses directory store body frame handler failure) ∧
    (∀ failure, outcome.2 = .error failure → outcome.1 = store) ∧
    ((∀ handler : ControlHandler, controlByte ∉ handler.bytes) → outcome = (store, .ok nothing)) ∧
    ∀ handler : ControlHandler, controlByte ∈ handler.bytes →
      ∀ dispatch, outcome.2 = .ok dispatch → ∃ device,
        directory.device? frame.identity = some device ∧
          Takes store device body frame.paramCount handler outcome.1 dispatch := by
  dsimp only
  refine ⟨fun failure => ⟨exists_refuses, ?_⟩, ?_, run_of_unmapped, ?_⟩
  · rintro ⟨handler, hbyte, hrefuses⟩
    rw [run_of_refuses hbyte hrefuses]
  · intro failure hfailure
    obtain ⟨handler, hbyte, hrefuses⟩ := exists_refuses hfailure
    rw [run_of_refuses hbyte hrefuses]
  · intro handler hbyte dispatch hdispatch
    rcases refuses_or_takes directory store body frame hbyte with
      ⟨_, _, hrun⟩ | ⟨device, after, taken, hdevice, htakes, hrun⟩
    · rw [hrun] at hdispatch
      cases hdispatch
    · rw [hrun] at hdispatch ⊢
      cases hdispatch
      exact ⟨device, hdevice, htakes⟩

/-- A clock of three bytes is refused, and of five bytes the first four are stored. -/
theorem run_all_or_nothing_clock :
    let sensor : Identity := ⟨[0xAA, 0xBB, 0xCC, 0xDD, 0xEE, 0xFF], rfl⟩
    let directory := Directory.empty.add sensor "transformer"
    let frame := Frame.make sensor (Header.make 0 false .controlResponse) [0x08]
    run directory Store.empty 0x08 [4, 3, 2] frame =
        (Store.empty, .error (.controlBodyTooShort 4 3)) ∧
      (run directory Store.empty 0x08 [4, 3, 2, 1, 0] frame).1.read? "transformer" "timestamp" =
        some (.u32 0x01020304) := by
  intro sensor directory frame
  have hdevice : directory.device? frame.identity = some "transformer" := rfl
  constructor
  · obtain ⟨hfails, hkept, -⟩ := run_all_or_nothing directory Store.empty 0x08 [4, 3, 2] frame
    have hfailure := (hfails (.controlBodyTooShort 4 3)).mpr
      ⟨.timestamp, by decide, .shortClock hdevice (by decide)⟩
    exact Prod.ext (hkept _ hfailure) hfailure
  · obtain ⟨-, -, -, htakes⟩ := run_all_or_nothing directory Store.empty 0x08 [4, 3, 2, 1, 0] frame
    obtain ⟨device, hknown, htaken⟩ := htakes .timestamp (by decide) nothing rfl
    obtain rfl := Option.some.inj (hknown.symm.trans hdevice)
    generalize (run _ _ _ _ _).1 = after at htaken ⊢
    cases htaken with
    | @timestamp _ _ _ _ _ _ seconds hbody hseconds hgains =>
      cases hbody
      obtain rfl : seconds = 0x01020304 := UInt32.toNat_inj.mp hseconds
      exact hgains.read?_eq Store.timestampResource

end Dispatch

end SensorGateway
