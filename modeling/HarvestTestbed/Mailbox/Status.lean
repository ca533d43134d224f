import HarvestTestbed.Mailbox.Slot
import HarvestTestbed.Session.Code

/-!
# Status slots

Each actor reports events through a status slot of its own.  Unlike a message, the newest event
replaces an unread one, and an event equal to the one that lies in the slot is dropped.  The writer
advances a sequence counter by two with every event; an event is pending while the counter differs
from the value the reader saw last.  An odd counter marks an event that is being written.
-/

namespace HarvestTestbed

structure StatusEvent where
  origin : Origin
  code : StatusCode
  first : UInt32
  second : UInt32
  deriving DecidableEq, Repr, Inhabited

/-- A message slot with a sequence counter, and the reader's copy of it. -/
structure StatusSlot where
  slot : Slot 2 := {}
  seq : UInt32 := 0
  delivered : UInt32 := 0
  deriving DecidableEq, Repr, Inhabited

namespace StatusSlot

/-- Empties the slot.  The counter runs on, and whatever was pending counts as delivered. -/
def clear (status : StatusSlot) : StatusSlot :=
  { status with slot := status.slot.clear, delivered := status.seq }

/-- Whether this very event lies in the slot, delivered or not. -/
def holds (status : StatusSlot) (origin : Origin) (code : StatusCode) (first second : UInt32) :
    Bool :=
  status.slot.tag == origin.toByte && status.slot.type == code.toByte &&
    WordPair.first status.slot.payload == first && WordPair.second status.slot.payload == second

def overwrite (status : StatusSlot) (origin : Origin) (code : StatusCode) (first second : UInt32) :
    StatusSlot :=
  { status with
    slot := { status.slot with
      tag := origin.toByte
      unread := 1
      type := code.toByte
      payload := WordPair.of first second }
    seq := status.seq + 2 }

/-- Publishes an event; refused if the very same event lies in the slot. -/
def report (status : StatusSlot) (origin : Origin) (code : StatusCode) (first second : UInt32) :
    Bool × StatusSlot :=
  if status.holds origin code first second then (false, status)
  else (true, status.overwrite origin code first second)

def isPending (status : StatusSlot) : Bool :=
  status.seq % 2 == 0 && status.seq != status.delivered

/-- The event in the slot as the host reads it.  A wrong tag or an unknown code is itself an event:
the slot was overwritten. -/
def event (status : StatusSlot) (expected : Origin) : StatusEvent :=
  match StatusCode.ofByte? status.slot.type with
  | some code =>
      if status.slot.tag = expected.toByte then
        ⟨expected, code, WordPair.first status.slot.payload, WordPair.second status.slot.payload⟩
      else corrupted
  | none => corrupted
where
  corrupted : StatusEvent :=
    ⟨expected, .memoryCorruption, status.slot.tag.toUInt32, status.slot.type.toUInt32⟩

/-- Takes the pending event, if any. -/
def poll (status : StatusSlot) (expected : Origin) : Option StatusEvent × StatusSlot :=
  if status.isPending then
    (some (status.event expected),
      { status with slot := { status.slot with unread := 0 }, delivered := status.seq })
  else (none, status)

end StatusSlot

end HarvestTestbed
