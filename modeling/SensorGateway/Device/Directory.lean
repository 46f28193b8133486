import SensorGateway.Data.Keyed
import SensorGateway.Envelope.Identity

/-!
# The directory of sensors

The directory says which device a sensor belongs to. Several identities may belong to one device,
as while a sensor is being replaced, but an identity belongs to at most one.
-/

namespace SensorGateway

structure Directory where
  devices : Keyed Identity String
deriving DecidableEq, Inhabited

namespace Directory

def empty : Directory := ⟨Keyed.empty⟩

def device? (directory : Directory) (identity : Identity) : Option String :=
  directory.devices.get? identity

def size (directory : Directory) : Nat :=
  directory.devices.size

/-- The directory with an identity given to a device, whoever had it before. -/
def add (directory : Directory) (identity : Identity) (device : String) : Directory :=
  ⟨directory.devices.insert identity device⟩

def removeDevice (directory : Directory) (device : String) : Directory :=
  ⟨directory.devices.keepValues (· ≠ device)⟩

/-- The directory with one identity in place of those a device had. -/
def update (directory : Directory) (device : String) (identity : Identity) : Directory :=
  (directory.removeDevice device).add identity device

end Directory

end SensorGateway
