/-!
# Message slots

A slot is a place for one message in shared memory.  The writer fills it and marks it unread; the
reader copies it and marks it read.  A writer that finds an unread message is refused and leaves
the slot untouched, so a message is never overwritten before it was read.
-/

namespace HarvestTestbed

/-- A slot with `words` payload words, as it lies in memory. -/
structure Slot (words : Nat) where
  tag : UInt8 := 0
  unread : UInt8 := 0
  type : UInt8 := 0
  reserved : UInt8 := 0
  payload : Vector UInt32 words := .replicate words 0
  deriving DecidableEq, Repr

/-- What a writer puts into a slot and a reader takes out of it. -/
structure Packet (words : Nat) where
  tag : UInt8
  type : UInt8
  payload : Vector UInt32 words
  deriving DecidableEq, Repr

namespace WordPair

/-- The payload of two words that most messages and every status event have. -/
def of (first second : UInt32) : Vector UInt32 2 :=
  #v[first, second]

def first (payload : Vector UInt32 2) : UInt32 :=
  payload[0]

def second (payload : Vector UInt32 2) : UInt32 :=
  payload[1]

@[simp] theorem first_of (a b : UInt32) : first (of a b) = a := rfl

@[simp] theorem second_of (a b : UInt32) : second (of a b) = b := rfl

end WordPair

namespace Slot

variable {words : Nat}

instance : Inhabited (Slot words) := ⟨{}⟩

def isUnread (slot : Slot words) : Bool :=
  slot.unread != 0

/-- Writes a packet unless the previous one is unread. -/
def write? (slot : Slot words) (packet : Packet words) : Option (Slot words) :=
  if slot.isUnread then none
  else some { slot with
    tag := packet.tag
    unread := 1
    type := packet.type
    payload := packet.payload }

/-- Takes an unread packet out and marks the slot as read. -/
def take? (slot : Slot words) : Option (Packet words × Slot words) :=
  if slot.isUnread then
    some (⟨slot.tag, slot.type, slot.payload⟩, { slot with unread := 0 })
  else none

/-- Empties the slot; the reserved byte stays. -/
def clear (slot : Slot words) : Slot words :=
  { slot with tag := 0, unread := 0, type := 0, payload := .replicate words 0 }

end Slot

end HarvestTestbed
