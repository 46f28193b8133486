/-!
# Bounded queues

Frames wait for the gateway's tasks in queues that keep their order and hold a limited number of
items. Whoever finds a queue full either waits or drops the item; the queue itself never loses
one.
-/

namespace SensorGateway

/-- The items waiting, oldest first, and how many may wait. -/
structure Queue (α : Type) where
  capacity : Nat
  items : List α
deriving DecidableEq

namespace Queue

variable {α : Type}

/-- The deepest queue that the platform can make. -/
def maximumCapacity : Nat := 0x1FFFFFFFFFFFFFFF

def fresh (capacity : Nat) : Queue α := ⟨capacity, []⟩

def isFull (queue : Queue α) : Bool :=
  queue.capacity ≤ queue.items.length

def push? (queue : Queue α) (item : α) : Option (Queue α) :=
  if queue.isFull then none else some { queue with items := queue.items ++ [item] }

def pop? (queue : Queue α) : Option (α × Queue α) :=
  match queue.items with
  | [] => none
  | item :: rest => some (item, { queue with items := rest })

def emptied (queue : Queue α) : Queue α :=
  { queue with items := [] }

end Queue

end SensorGateway
