import SensorGateway.Data.Keyed
import SensorGateway.Parameter.Value

/-!
# The value store

The store keeps the last known value of every resource of every device. Writing makes a device
known; only forgetting it makes it unknown again. A few resources belong to the gateway itself: the
identity text through which commands find the sensor, the time of the last frame, and what control
replies report.
-/

namespace SensorGateway

/-- The values of one device, or of one report, by resource. -/
abbrev ValueMap := Keyed String Value

namespace ValueMap

def sorted (values : ValueMap) : List (String × Value) :=
  values.entries.mergeSort fun left right => !decide (right.1 < left.1)

/-- The map as a JSON object with its fields by ascending name. -/
def toJson (values : ValueMap) : Json :=
  .object ((sorted values).map fun entry => (entry.1, entry.2.toJson))

end ValueMap

structure Store where
  devices : Keyed String ValueMap
deriving DecidableEq, Inhabited

namespace Store

/-- The resource that holds the text of a device's sensor identity. -/
def identityResource : String := "eid"

def lastDataResource : String := "lastDataTimestamp"

/-- The resource that holds the sensor's own clock. -/
def timestampResource : String := "timestamp"

def resetStatusResource : String := "reset_ctl"

def empty : Store := ⟨Keyed.empty⟩

def values? (store : Store) (device : String) : Option ValueMap :=
  store.devices.get? device

def contains (store : Store) (device : String) : Bool :=
  store.devices.contains device

def read? (store : Store) (device resource : String) : Option Value :=
  (store.values? device).bind fun values => values.get? resource

def write (store : Store) (device resource : String) (value : Value) : Store :=
  ⟨store.devices.insert device
    (((store.values? device).getD Keyed.empty).insert resource value)⟩

/-- The store after several resources of a device have got values, the last one winning. -/
def writeAll (store : Store) (device : String) (values : List (String × Value)) : Store :=
  values.foldl (fun store entry => store.write device entry.1 entry.2) store

def forget (store : Store) (device : String) : Store :=
  ⟨store.devices.erase device⟩

/-- The identity under which commands for a device are sent: the text in its identity resource,
if that is one. -/
def identity? (store : Store) (device : String) : Option Identity := do
  let value ← store.read? device identityResource
  let text ← value.text?
  (Identity.parse text).toOption

theorem read?_write (store : Store) (device resource : String) (value : Value)
    (otherDevice otherResource : String) :
    (store.write device resource value).read? otherDevice otherResource =
      if otherDevice = device ∧ otherResource = resource then some value
      else store.read? otherDevice otherResource := by
  rw [read?, values?, write, Keyed.get?_insert]
  by_cases hdevice : otherDevice = device
  · subst hdevice
    rw [if_pos rfl, Option.bind_some, Keyed.get?_insert]
    by_cases hresource : otherResource = resource
    · simp [hresource]
    · simp only [hresource, and_false, if_false]
      rw [read?]
      cases store.values? otherDevice <;> simp
  · simp [hdevice, read?, values?]

theorem identity?_eq_some_iff {store : Store} {device : String} {identity : Identity} :
    store.identity? device = some identity ↔
      ∃ text, store.read? device identityResource = some (.text text) ∧
        Identity.parse text = .ok identity := by
  rw [identity?]
  cases store.read? device identityResource with
  | none => simp
  | some value =>
    cases value with
    | text text =>
      cases hparse : Identity.parse text <;> simp [Value.text?, Except.toOption, hparse]
    | _ => simp [Value.text?]

theorem identity?_eq_none_iff {store : Store} {device : String} :
    store.identity? device = none ↔ ∀ text identity,
      store.read? device identityResource = some (.text text) →
        Identity.parse text ≠ .ok identity := by
  simp only [Option.eq_none_iff_forall_ne_some, ne_eq, identity?_eq_some_iff, not_exists, not_and]
  exact forall_comm

end Store

end SensorGateway
