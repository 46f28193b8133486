/-!
# Outgoing channels

Frames and reports leave the gateway through channels. A channel takes everything as long as
somebody receives, and afterwards refuses everything; the gateway goes on in either case.
-/

namespace SensorGateway

/-- A channel with what has been handed over and not yet been taken, oldest first. -/
structure Channel (α : Type) where
  isOpen : Bool
  delivered : List α
deriving DecidableEq

namespace Channel

variable {α : Type}

def fresh : Channel α := ⟨true, []⟩

/-- The channel after an attempt to hand something over. -/
def send (channel : Channel α) (item : α) : Channel α :=
  if channel.isOpen then { channel with delivered := channel.delivered ++ [item] } else channel

def close (channel : Channel α) : Channel α :=
  { channel with isOpen := false }

def emptied (channel : Channel α) : Channel α :=
  { channel with delivered := [] }

end Channel

end SensorGateway
