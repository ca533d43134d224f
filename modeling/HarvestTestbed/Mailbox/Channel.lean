import HarvestTestbed.Mailbox.Wire
import HarvestTestbed.Mailbox.Status

/-!
# Channels

A channel joins one writer and one reader through a slot.  The writer stamps its origin; the reader
accepts that origin only.  What goes wrong at an end is reported on the status slot of the actor at
that end: a refused message as backpressure, a foreign tag as corruption, a type that does not
belong there as an invalid command.
-/

namespace HarvestTestbed

structure Message where
  origin : Origin
  type : MessageType
  first : UInt32
  second : UInt32
  deriving DecidableEq, Repr, Inhabited

/-- Answer of the host to a sync request. -/
structure SyncReply where
  /-- Timer ticks of the next period. -/
  syncInterval : UInt32 := 0
  /-- Whole ticks between two samples. -/
  sampleInterval : UInt32 := 0
  /-- How many samples of the next period get one extra tick. -/
  compensation : UInt32 := 0
  /-- Timestamp of the next period boundary. -/
  nextTimestamp : UInt64 := 0
  deriving DecidableEq, Repr, Inhabited

namespace SyncReply

def toWords (reply : SyncReply) : Vector UInt32 5 :=
  #v[reply.syncInterval, reply.sampleInterval, reply.compensation,
    lowWord reply.nextTimestamp, highWord reply.nextTimestamp]

def ofWords (words : Vector UInt32 5) : SyncReply where
  syncInterval := words[0]
  sampleInterval := words[1]
  compensation := words[2]
  nextTimestamp := joinWords words[3] words[4]

end SyncReply

/-- Why a reader got no message. -/
inductive ReceiveFault
  | empty
  /-- The tag is not that of the writer; the message is discarded. -/
  | corrupted (tag : UInt8)
  /-- The type is unknown or does not belong on this channel; the message is discarded. -/
  | invalidType (type : UInt8)
  deriving DecidableEq, Repr

/-- The two slots a sending actor touches, and whether the message went out. -/
structure Sending (words : Nat) where
  accepted : Bool
  slot : Slot words
  status : StatusSlot
  deriving Repr

/-- The two slots a receiving actor touches, and what it received. -/
structure Receiving (words : Nat) (α : Type) where
  answer : Option α
  slot : Slot words
  status : StatusSlot
  deriving Repr

namespace Channel

variable {words : Nat}

def packet (origin : Origin) (type : MessageType) (first second : UInt32) : Packet 2 :=
  ⟨origin.toByte, type.toByte, WordPair.of first second⟩

def replyPacket (origin : Origin) (reply : SyncReply) : Packet 5 :=
  ⟨origin.toByte, MessageType.syncReply.toByte, reply.toWords⟩

/-- Writes a packet, or reports backpressure with the type and the first word refused. -/
def sendPacket (origin : Origin) (slot : Slot words) (status : StatusSlot) (packet : Packet words)
    (type : MessageType) (first : UInt32) : Sending words :=
  match slot.write? packet with
  | some slot => ⟨true, slot, status⟩
  | none => ⟨false, slot, (status.report origin .backpressure type.toWord first).2⟩

def send (origin : Origin) (slot : Slot 2) (status : StatusSlot) (type : MessageType)
    (first second : UInt32) : Sending 2 :=
  sendPacket origin slot status (packet origin type first second) type first

def sendReply (origin : Origin) (slot : Slot 5) (status : StatusSlot) (reply : SyncReply) :
    Sending 5 :=
  sendPacket origin slot status (replyPacket origin reply) .syncReply reply.syncInterval

/-- Writes a packet without reporting a refusal; a refused message is handed back. -/
def trySendPacket {α : Type} (slot : Slot words) (packet : Packet words) (message : α) :
    Except α Unit × Slot words :=
  match slot.write? packet with
  | some slot => (.ok (), slot)
  | none => (.error message, slot)

def trySend (origin : Origin) (slot : Slot 2) (type : MessageType) (first second : UInt32) :
    Except (MessageType × UInt32 × UInt32) Unit × Slot 2 :=
  trySendPacket slot (packet origin type first second) (type, first, second)

def trySendReply (origin : Origin) (slot : Slot 5) (reply : SyncReply) :
    Except SyncReply Unit × Slot 5 :=
  trySendPacket slot (replyPacket origin reply) reply

/-- Takes the waiting packet out of the slot and checks its tag and type. -/
def tryTake (expected : Origin) (slot : Slot words) :
    Except ReceiveFault (MessageType × Vector UInt32 words) × Slot words :=
  match slot.take? with
  | none => (.error .empty, slot)
  | some (packet, slot) =>
      if packet.tag = expected.toByte then
        match MessageType.ofByte? packet.type with
        | some .none => (.error (.invalidType packet.type), slot)
        | some type => (.ok (type, packet.payload), slot)
        | none => (.error (.invalidType packet.type), slot)
      else (.error (.corrupted packet.tag), slot)

def tryReceive (expected : Origin) (slot : Slot 2) : Except ReceiveFault Message × Slot 2 :=
  let taken := tryTake expected slot
  (taken.1.map fun content =>
      ⟨expected, content.1, WordPair.first content.2, WordPair.second content.2⟩,
    taken.2)

/-- Consumes a waiting sync reply without reporting failures; nothing else belongs on this
channel. -/
def tryReceiveReply (expected : Origin) (slot : Slot 5) :
    Except ReceiveFault SyncReply × Slot 5 :=
  let taken := tryTake expected slot
  (taken.1.bind fun content =>
      if content.1 = .syncReply then .ok (.ofWords content.2)
      else .error (.invalidType content.1.toByte),
    taken.2)

/-- Reports a failed receive on the status slot of the reader; an empty slot is no failure. -/
def reportFault (reader expected : Origin) (status : StatusSlot) : ReceiveFault → StatusSlot
  | .empty => status
  | .corrupted tag =>
      (status.report reader .memoryCorruption tag.toUInt32 expected.toByte.toUInt32).2
  | .invalidType type => (status.report reader .invalidCommand type.toUInt32 0).2

/-- The outcome of a receive, with its failure reported. -/
def settle {α : Type} (reader expected : Origin) (status : StatusSlot)
    (taken : Except ReceiveFault α × Slot words) : Receiving words α :=
  match taken with
  | (.ok answer, slot) => ⟨some answer, slot, status⟩
  | (.error fault, slot) => ⟨none, slot, reportFault reader expected status fault⟩

/-- Consumes a waiting message; corrupted or malformed ones are reported and dropped. -/
def receive (reader expected : Origin) (slot : Slot 2) (status : StatusSlot) :
    Receiving 2 Message :=
  settle reader expected status (tryReceive expected slot)

def receiveReply (reader expected : Origin) (slot : Slot 5) (status : StatusSlot) :
    Receiving 5 SyncReply :=
  settle reader expected status (tryReceiveReply expected slot)

end Channel

end HarvestTestbed
