import SensorGateway.Device.Directory
import SensorGateway.Failure
import SensorGateway.Json.Basic
import SensorGateway.Json.Document

/-!
# Settings

A gateway is set up from a JSON text. Every setting has a default, so an empty object is enough.
Settings may be named in an object, in any order but each at most once, or listed in an array in
their fixed order; names that mean nothing here are ignored. Settings that could not work are
refused as a whole.
-/

namespace SensorGateway

/-- A sensor of a device, its identity as it was spelled. -/
structure DeviceMapping where
  identity : String
  device : String
deriving DecidableEq

structure Settings where
  /-- Seconds without progress after which a reassembly is given up. -/
  timeoutSeconds : Nat := 20
  /-- How many frames may wait to be handled. -/
  inboundDepth : Nat := 128
  /-- How many pieces may wait for the shard engine. -/
  shardDepth : Nat := 100
  sourceTag : String := "AsyncReporting"
  devices : List DeviceMapping := []
deriving DecidableEq

namespace Settings

/-- The error of the first device whose identity is none. -/
def checkDevices : List DeviceMapping → Except SettingsError Unit
  | [] => .ok ()
  | mapping :: rest =>
    match Identity.parse mapping.identity with
    | .error cause => .error (.device mapping.device cause)
    | .ok _ => checkDevices rest

def validate (settings : Settings) : Except SettingsError Unit :=
  if settings.timeoutSeconds = 0 then .error .zeroTimeout
  else if settings.inboundDepth = 0 ∨ settings.shardDepth = 0 then .error .zeroQueueDepth
  else checkDevices settings.devices

/-- The timeout on the forward clock. -/
def timeout (settings : Settings) : Nat :=
  settings.timeoutSeconds * 1000

/-- The directory of the configured devices; of two entries for an identity the later one wins. -/
def directoryFrom (directory : Directory) : List DeviceMapping → Except Failure Directory
  | [] => .ok directory
  | mapping :: rest =>
    match Identity.parse mapping.identity with
    | .error cause => .error (.invalidIdentity cause)
    | .ok identity => directoryFrom (directory.add identity mapping.device) rest

def directory (settings : Settings) : Except Failure Directory :=
  directoryFrom Directory.empty settings.devices

/-- Numbers are read into words of eight bytes. -/
def number? (document : Json.Document) : Option Nat :=
  document.natural?.filter (· < 0x10000000000000000)

/-- The fields of a record whose fields are named in an object or listed in an array, each in the
place of its name; names that are not asked for are ignored. -/
def fields? (names : List String) : Json.Document → Option (List (Option Json.Document))
  | .array items =>
    if names.length < items.length then none
    else some (names.zipIdx.map fun (_, place) => items[place]?)
  | .object fields =>
    if fields.any fun field => field.1.isNone then none
    else
      names.mapM fun name =>
        match fields.filter fun field => field.1 == some name with
        | [] => some none
        | [field] => some (some field.2)
        | _ => none
  | _ => none

def optional? {α : Type} (default : α) (read? : Json.Document → Option α) :
    Option Json.Document → Option α
  | none => some default
  | some document => read? document

def mapping? (document : Json.Document) : Option DeviceMapping := do
  match ← fields? ["sensor_id", "name"] document with
  | [some identity, some device] =>
    pure ⟨← identity.text?, ← device.text?⟩
  | _ => none

def mappings? : Json.Document → Option (List DeviceMapping)
  | .array items => items.mapM mapping?
  | _ => none

def ofDocument? (document : Json.Document) : Option Settings := do
  let names :=
    ["reassembly_timeout_secs", "inbound_queue_depth", "shard_queue_depth", "source_tag",
      "devices"]
  let defaults : Settings := {}
  match ← fields? names document with
  | [timeout, inbound, shard, tag, devices] =>
    pure
      { timeoutSeconds := ← optional? defaults.timeoutSeconds number? timeout
        inboundDepth := ← optional? defaults.inboundDepth number? inbound
        shardDepth := ← optional? defaults.shardDepth number? shard
        sourceTag := ← optional? defaults.sourceTag Json.Document.text? tag
        devices := ← optional? defaults.devices mappings? devices }
  | _ => none

/-- The settings that a text says, not yet validated. -/
def read (text : String) : Except Failure Settings :=
  match (Json.Document.parse? text).bind ofDocument? with
  | some settings => .ok settings
  | none => .error .malformedJson

def parse (text : String) : Except Failure Settings := do
  let settings ← read text
  match settings.validate with
  | .error cause => .error (.invalidSettings cause)
  | .ok () => pure settings

/-- The valid settings in the contents of a file, `none` standing for a file that cannot be
read. -/
def ofFile (contents : Option ByteArray) : Except Failure Settings :=
  match contents.bind String.fromUTF8? with
  | none => .error .unreadableFile
  | some text => parse text

def toJson (settings : Settings) : Json :=
  .object
    [("reassembly_timeout_secs", .ofNat settings.timeoutSeconds),
      ("inbound_queue_depth", .ofNat settings.inboundDepth),
      ("shard_queue_depth", .ofNat settings.shardDepth),
      ("source_tag", .string settings.sourceTag),
      ("devices",
        .array
          (settings.devices.map fun mapping =>
            .object [("sensor_id", .string mapping.identity), ("name", .string mapping.device)]))]

end Settings

end SensorGateway
