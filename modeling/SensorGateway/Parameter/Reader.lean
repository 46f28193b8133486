import SensorGateway.Parameter.Entry

/-!
# Reading a parameter list

A payload holds as many entries as its header announces. The reader takes them one after the other
and knows at every moment how many bytes it has consumed. The first entry that is cut short ends
the reading, because nobody can tell where the next one would begin.
-/

namespace SensorGateway

structure EntryReader where
  rest : Bytes
  offset : Nat
  /-- How many more entries may be read. -/
  remaining : Nat
  /-- An entry was cut short. -/
  broken : Bool

namespace EntryReader

def start (payload : Bytes) (count : Nat) : EntryReader :=
  ⟨payload, 0, count, false⟩

def failureAt (offset : Nat) : EntryError → Failure
  | .head => .entryHeadOutOfBounds offset
  | .data declared available => .entryDataOutOfBounds offset declared available

/-- The next entry, or the failure that ends the reading, with the reader after it. -/
def next? (reader : EntryReader) : Option (Except Failure Entry × EntryReader) :=
  if reader.broken || reader.remaining == 0 then none
  else
    match Entry.read reader.rest with
    | .ok (entry, rest) =>
      some
        (.ok entry,
          { reader with
            rest
            offset := reader.offset + entry.encodedLength
            remaining := reader.remaining - 1 })
    | .error cause =>
      some
        (.error (failureAt reader.offset cause),
          { reader with remaining := reader.remaining - 1, broken := true })

def stepsWithin : Nat → EntryReader → List (Except Failure Entry × EntryReader)
  | 0, _ => []
  | count + 1, reader =>
    match reader.next? with
    | none => []
    | some (item, after) => (item, after) :: stepsWithin count after

/-- Every item that the reader has still to yield, each with the reader after it. -/
def steps (reader : EntryReader) : List (Except Failure Entry × EntryReader) :=
  stepsWithin reader.remaining reader

def items (reader : EntryReader) : List (Except Failure Entry) :=
  reader.steps.map Prod.fst

def finish (reader : EntryReader) : EntryReader :=
  (reader.steps.getLast?.map Prod.snd).getD reader

end EntryReader

end SensorGateway
