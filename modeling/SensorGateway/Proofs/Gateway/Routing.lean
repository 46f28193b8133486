import Mathlib.Data.List.Basic
import SensorGateway.Proofs.Keyed
import SensorGateway.Gateway.Processing

/-!
# What routing a frame depends on

Routing a frame writes the date to the store first, and from then on neither that date nor anything
that has been sent matters: a frame is handled alike at stations in any relation that lasts whatever
both of them write, report or send (`IsCongruence`). So it leads to the same reports, the same
requests and the same writes at any two stations that agree up to that date (`route_alike`). What
has been sent is compared without the moments, by `Sends`.
-/

namespace SensorGateway

namespace Store

/-- The stores differ at most in the time of the last frame of one device. -/
structure SameUpToDate (device : String) (left right : Store) : Prop where
  read?_eq : ∀ other resource, ¬ (other = device ∧ resource = lastDataResource) →
    left.read? other resource = right.read? other resource
  contains_eq : ∀ other, left.contains other = right.contains other

/-- The stores differ at most in that, and one of them may not know the device yet. -/
structure AlmostSame (device : String) (left right : Store) : Prop where
  read?_eq : ∀ other resource, ¬ (other = device ∧ resource = lastDataResource) →
    left.read? other resource = right.read? other resource
  contains_eq : ∀ other, other ≠ device → left.contains other = right.contains other

variable {device : String} {left right : Store}

theorem contains_write (store : Store) (device resource : String) (value : Value)
    (other : String) :
    (store.write device resource value).contains other =
      (decide (other = device) || store.contains other) := by
  rw [contains, Keyed.contains, write, Keyed.get?_insert]
  by_cases h : other = device
  · simp [h]
  · simp [h, contains, Keyed.contains]

theorem values?_write_of_ne (store : Store) (resource : String) (value : Value) {other : String}
    (hother : other ≠ device) :
    (store.write device resource value).values? other = store.values? other := by
  rw [values?, write, Keyed.get?_insert_of_ne _ _ hother, values?]

theorem values?_writeAll_of_ne (store : Store) (values : List (String × Value)) {other : String}
    (hother : other ≠ device) :
    (store.writeAll device values).values? other = store.values? other := by
  unfold writeAll
  induction values generalizing store with
  | nil => rfl
  | cons entry rest ih =>
    exact (ih _).trans (values?_write_of_ne store entry.1 entry.2 hother)

theorem AlmostSame.refl (device : String) (store : Store) : AlmostSame device store store :=
  ⟨fun _ _ _ => rfl, fun _ _ => rfl⟩

theorem AlmostSame.write_right (h : AlmostSame device left right) (value : Value) :
    AlmostSame device left (right.write device lastDataResource value) := by
  constructor
  · intro other resource hother
    rw [read?_write, if_neg hother]
    exact h.read?_eq other resource hother
  · intro other hother
    rw [contains_write, decide_eq_false hother, Bool.false_or]
    exact h.contains_eq other hother

/-- Once the date has been written to both, they both know the device. -/
theorem AlmostSame.write_date (h : AlmostSame device left right) (value other : Value) :
    SameUpToDate device (left.write device lastDataResource value)
      (right.write device lastDataResource other) := by
  constructor
  · intro otherDevice resource hother
    rw [read?_write, read?_write, if_neg hother, if_neg hother]
    exact h.read?_eq otherDevice resource hother
  · intro otherDevice
    rw [contains_write, contains_write]
    by_cases heq : otherDevice = device
    · simp [heq]
    · simp [heq, h.contains_eq otherDevice heq]

theorem SameUpToDate.write (h : SameUpToDate device left right) (target resource : String)
    (value : Value) :
    SameUpToDate device (left.write target resource value) (right.write target resource value) := by
  constructor
  · intro other otherResource hother
    rw [read?_write, read?_write, h.read?_eq other otherResource hother]
  · intro other
    rw [contains_write, contains_write, h.contains_eq other]

theorem SameUpToDate.identity?_eq (h : SameUpToDate device left right) (target : String) :
    left.identity? target = right.identity? target := by
  have hresource : identityResource ≠ lastDataResource := by decide
  rw [identity?, identity?, h.read?_eq target identityResource fun heq => hresource heq.2]

end Store

theorem Store.writeAll_congr (Same : Store → Store → Prop)
    (hwrite : ∀ {left right : Store}, Same left right → ∀ target resource value,
      Same (left.write target resource value) (right.write target resource value))
    {left right : Store} (h : Same left right) (target : String)
    (values : List (String × Value)) :
    Same (left.writeAll target values) (right.writeAll target values) := by
  rw [Store.writeAll, Store.writeAll]
  induction values generalizing left right with
  | nil => exact h
  | cons entry rest ih => exact ih (hwrite h target entry.1 entry.2)

/-- A handler looks at nothing in the store but identities, and it writes the same whatever else is
there. -/
theorem Dispatch.run_congr (Same : Store → Store → Prop)
    (hwrite : ∀ {left right : Store}, Same left right → ∀ target resource value,
      Same (left.write target resource value) (right.write target resource value))
    (hidentity : ∀ {left right : Store}, Same left right → ∀ target,
      left.identity? target = right.identity? target)
    {left right : Store} (h : Same left right) (directory : Directory) (controlByte : UInt8)
    (body : Bytes) (frame : Frame) :
    Same (run directory left controlByte body frame).1
        (run directory right controlByte body frame).1 ∧
      (run directory left controlByte body frame).2 =
        (run directory right controlByte body frame).2 := by
  rw [run, run]
  cases (ControlKey.ofByte controlByte).handler? with
  | none => exact ⟨h, rfl⟩
  | some handler =>
    cases directory.device? frame.identity with
    | none => exact ⟨h, rfl⟩
    | some target =>
      cases handler with
      | commonParameters => exact ⟨Store.writeAll_congr Same hwrite h target _, rfl⟩
      | timestamp =>
        simp only [timestamp]
        split_ifs
        · exact ⟨h, rfl⟩
        · exact ⟨hwrite h target _ _, rfl⟩
      | resetAck =>
        cases body with
        | nil => exact ⟨h, rfl⟩
        | cons => exact ⟨hwrite h target _ _, rfl⟩
      | resetTrigger =>
        simp only [resetTrigger, hidentity h target]
        cases right.identity? target with
        | none => exact ⟨h, rfl⟩
        | some identity => exact ⟨h, rfl⟩

namespace Station

/-! ### What has been sent -/

/-- Between two stations frames have been sent, at whatever moments, and they have arrived if
anybody receives. -/
structure Sends (before after : Station) (frames : List (Identity × Bytes)) : Prop where
  isOpen_eq : after.line.isOpen = before.line.isOpen
  delivered_eq : after.line.delivered.map (fun sent => (sent.target, sent.bytes)) =
    before.line.delivered.map (fun sent => (sent.target, sent.bytes)) ++
      if before.line.isOpen then frames else []

variable {before station after : Station} {frames more : List (Identity × Bytes)}

theorem sends_nil (h : after.line = before.line) : Sends before after [] :=
  ⟨by rw [h], by simp [h]⟩

theorem Sends.trans (h : Sends before station frames) (hmore : Sends station after more) :
    Sends before after (frames ++ more) := by
  refine ⟨hmore.isOpen_eq.trans h.isOpen_eq, ?_⟩
  rw [hmore.delivered_eq, h.delivered_eq, h.isOpen_eq, List.append_assoc]
  split_ifs <;> simp

theorem Sends.congr {other later : Station} (h : Sends before after frames)
    (hbefore : other.line = before.line) (hafter : later.line = after.line) :
    Sends other later frames :=
  ⟨by rw [hbefore, hafter]; exact h.isOpen_eq, by rw [hbefore, hafter]; exact h.delivered_eq⟩

theorem sends_send (station : Station) (target : Identity) (bytes : Bytes) :
    Sends station (station.send target bytes) [(target, bytes)] := by
  simp only [send, sendAt, Channel.send]
  constructor
  · dsimp only
    split_ifs <;> rfl
  · dsimp only
    split_ifs <;> simp

theorem sendAll_eq (station : Station) (frames : List (Identity × Bytes)) :
    ∃ line, station.sendAll frames = { station with line } := by
  rw [sendAll]
  induction frames generalizing station with
  | nil => exact ⟨station.line, rfl⟩
  | cons frame rest ih =>
    obtain ⟨line, h⟩ := ih (station.send frame.1 frame.2)
    exact ⟨line, h⟩

theorem sends_sendAll (station : Station) (frames : List (Identity × Bytes)) :
    Sends station (station.sendAll frames) frames := by
  rw [sendAll]
  induction frames generalizing station with
  | nil => exact sends_nil rfl
  | cons frame rest ih =>
    exact (sends_send station frame.1 frame.2).trans (ih (station.send frame.1 frame.2))

/-! ### Relations that a frame keeps -/

/-- Related stations know the same sensors and the same identities, and they stay related whatever
both write, report or send. -/
structure IsCongruence (Same : Station → Station → Prop) : Prop where
  directory_eq : ∀ {left right : Station}, Same left right → left.directory = right.directory
  identity?_eq : ∀ {left right : Station}, Same left right → ∀ device,
    left.store.identity? device = right.store.identity? device
  write : ∀ {left right : Station}, Same left right → ∀ device resource value,
    Same (left.write device resource value) (right.write device resource value)
  report : ∀ {left right : Station}, Same left right → ∀ device values,
    Same (left.report device values) (right.report device values)
  send : ∀ {left right : Station}, Same left right → ∀ target bytes,
    Same (left.send target bytes) (right.send target bytes)

section IsCongruence

variable {Same : Station → Station → Prop} {left right : Station}

theorem IsCongruence.writeAll (h : IsCongruence Same) (hsame : Same left right) (device : String)
    (values : List (String × Value)) :
    Same { left with store := left.store.writeAll device values }
      { right with store := right.store.writeAll device values } :=
  Store.writeAll_congr
    (fun store other => Same { left with store } { right with store := other })
    (fun hstores => h.write hstores) hsame device values

theorem IsCongruence.sendAll (h : IsCongruence Same) (hsame : Same left right)
    (frames : List (Identity × Bytes)) : Same (left.sendAll frames) (right.sendAll frames) := by
  rw [Station.sendAll, Station.sendAll]
  induction frames generalizing left right with
  | nil => exact hsame
  | cons frame rest ih => exact ih (h.send hsame frame.1 frame.2)

theorem IsCongruence.handleBusiness (h : IsCongruence Same) (hsame : Same left right)
    (device : String) (frame : Frame) :
    Same (left.handleBusiness device frame) (right.handleBusiness device frame) := by
  simp only [Station.handleBusiness]
  split_ifs
  · exact hsame
  · exact h.report (h.writeAll hsame device _) device _

theorem IsCongruence.handleControl (h : IsCongruence Same) (hsame : Same left right)
    (device : String) (frame : Frame) :
    Same (left.handleControl device frame) (right.handleControl device frame) := by
  cases hmessage : ControlMessage.ofFrame frame with
  | error => simpa only [Station.handleControl, hmessage] using hsame
  | ok message =>
    have hran := Dispatch.run_congr
      (fun store other => Same { left with store } { right with store := other })
      (fun hstores => h.write hstores) (fun hstores => h.identity?_eq hstores) hsame
      left.directory message.controlByte message.body frame
    rcases hleft : Dispatch.run left.directory left.store message.controlByte message.body frame
      with ⟨store, result⟩
    rcases hright : Dispatch.run left.directory right.store message.controlByte message.body frame
      with ⟨other, same⟩
    rw [hleft, hright] at hran
    obtain ⟨hwritten, hresult⟩ := hran
    dsimp only at hwritten hresult
    subst hresult
    rw [h.directory_eq hsame] at hright
    simp only [Station.handleControl, hmessage, hleft, hright]
    -- what follows the handler does not look at the station any more
    cases result with
    | error => exact hwritten
    | ok dispatch =>
      cases hreported : dispatch.reported with
      | none =>
        simp only [hreported]
        exact h.sendAll hwritten dispatch.outbound
      | some values =>
        simp only [hreported]
        split_ifs
        · exact h.sendAll hwritten dispatch.outbound
        · exact h.sendAll (h.report hwritten device values) dispatch.outbound

end IsCongruence

/-! ### Stations that agree up to the date -/

/-- The stations differ at most in clocks, lines and the time of the last frame of a device. -/
structure Alike (device : String) (left right : Station) : Prop where
  directory_eq : left.directory = right.directory
  sourceTag_eq : left.sourceTag = right.sourceTag
  reports_eq : left.reports = right.reports
  store : Store.SameUpToDate device left.store right.store

theorem isCongruence_alike (device : String) : IsCongruence (Alike device) where
  directory_eq h := h.directory_eq
  identity?_eq h := h.store.identity?_eq
  write h target resource value := { h with store := h.store.write target resource value }
  report h target values := by
    refine { h with reports_eq := ?_ }
    simp only [Station.report, h.reports_eq, h.sourceTag_eq]
  send h target bytes := { h with }

theorem Alike.handleBusiness {device : String} {left right : Station}
    (h : Alike device left right) (frame : Frame) :
    Alike device (left.handleBusiness device frame) (right.handleBusiness device frame) :=
  (isCongruence_alike device).handleBusiness h device frame

/-- The stations agree up to the date, and they have sent the same since two others. -/
def AlikeSince (device : String) (before other left right : Station) : Prop :=
  Alike device left right ∧ ∃ requests, Sends before left requests ∧ Sends other right requests

theorem isCongruence_alikeSince (device : String) (before other : Station) :
    IsCongruence (AlikeSince device before other) where
  directory_eq h := h.1.directory_eq
  identity?_eq h := h.1.store.identity?_eq
  write h target resource value := by
    obtain ⟨halike, requests, hleft, hright⟩ := h
    exact ⟨(isCongruence_alike device).write halike target resource value, requests,
      hleft.congr rfl rfl, hright.congr rfl rfl⟩
  report h target values := by
    obtain ⟨halike, requests, hleft, hright⟩ := h
    exact ⟨(isCongruence_alike device).report halike target values, requests,
      hleft.congr rfl rfl, hright.congr rfl rfl⟩
  send h target bytes := by
    obtain ⟨halike, requests, hleft, hright⟩ := h
    exact ⟨(isCongruence_alike device).send halike target bytes, requests ++ [(target, bytes)],
      hleft.trans (sends_send ..), hright.trans (sends_send ..)⟩

variable {device : String} {left right : Station}

/-! ### Routing -/

theorem route_of_whole {frame : Frame} (hwhole : frame.fragmented = false)
    (hdevice : station.directory.device? frame.identity = some device) :
    (station.route frame).1 =
      let dated := station.write device Store.lastDataResource (.i64 station.clock.nanoseconds)
      if frame.packetType.isBusiness then dated.handleBusiness device frame
      else if frame.packetType.isControl then dated.handleControl device frame
      else dated := by
  simp only [route, hdevice, hwhole, Bool.false_eq_true, if_false]
  split_ifs <;> rfl

/-- A whole frame leads to the same at stations that agree but for the date. -/
theorem route_alike {frame : Frame} (hwhole : frame.fragmented = false)
    (hdevice : left.directory.device? frame.identity = some device)
    (hdirectory : left.directory = right.directory) (htag : left.sourceTag = right.sourceTag)
    (hreports : left.reports = right.reports)
    (hstore : Store.AlmostSame device left.store right.store) :
    Alike device (left.route frame).1 (right.route frame).1 ∧
      ∃ requests, Sends left (left.route frame).1 requests ∧
        Sends right (right.route frame).1 requests := by
  rw [route_of_whole hwhole hdevice, route_of_whole hwhole (hdirectory ▸ hdevice)]
  have hcongruence := isCongruence_alikeSince device left right
  have hdated : AlikeSince device left right
      (left.write device Store.lastDataResource (.i64 left.clock.nanoseconds))
      (right.write device Store.lastDataResource (.i64 right.clock.nanoseconds)) :=
    ⟨⟨hdirectory, htag, hreports, hstore.write_date _ _⟩, [], sends_nil rfl, sends_nil rfl⟩
  dsimp only
  split_ifs
  · exact hcongruence.handleBusiness hdated device frame
  · exact hcongruence.handleControl hdated device frame
  · exact hdated

theorem route_of_fragmented {frame : Frame} (hpiece : frame.fragmented = true)
    (hdevice : before.directory.device? frame.identity = some device) :
    before.route frame =
      (before.write device Store.lastDataResource (.i64 before.clock.nanoseconds),
        .fragment frame) := by
  rw [route, hdevice]
  simp [hpiece]

end Station

end SensorGateway
