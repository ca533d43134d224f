import HarvestTestbed.Mailbox.Slot

/-!
# Wire images

A slot lies in memory as four header bytes followed by its payload words, lowest byte first.  A
message has two words.  A sync reply has three words and a 64-bit timestamp, whose low word comes
first.
-/

namespace HarvestTestbed

/-- Byte `index` of a 32-bit word, the lowest byte being number zero. -/
def byteOfWord (word : UInt32) (index : Nat) : UInt8 :=
  UInt8.ofNat (word.toNat >>> (8 * index))

/-- The 32-bit word with the given bytes, lowest first. -/
def wordOfBytes (b0 b1 b2 b3 : UInt8) : UInt32 :=
  UInt32.ofNat (b0.toNat + 256 * b1.toNat + 65536 * b2.toNat + 16777216 * b3.toNat)

def wordBytes (word : UInt32) : List UInt8 :=
  [byteOfWord word 0, byteOfWord word 1, byteOfWord word 2, byteOfWord word 3]

def byteOfLong (value : UInt64) (index : Nat) : UInt8 :=
  UInt8.ofNat (value.toNat >>> (8 * index))

def lowWord (value : UInt64) : UInt32 :=
  UInt32.ofNat (value.toNat % UInt32.size)

def highWord (value : UInt64) : UInt32 :=
  UInt32.ofNat (value.toNat / UInt32.size)

def joinWords (low high : UInt32) : UInt64 :=
  UInt64.ofNat (low.toNat + UInt32.size * high.toNat)

def Slot.wireBytes {words : Nat} (slot : Slot words) : List UInt8 :=
  [slot.tag, slot.unread, slot.type, slot.reserved] ++ slot.payload.toList.flatMap wordBytes

/-- A message of two words as it lies in memory. -/
structure RawMessage where
  tag : UInt8
  unread : UInt8
  type : UInt8
  reserved : UInt8
  first : UInt32
  second : UInt32
  deriving DecidableEq, Repr, Inhabited

namespace RawMessage

def toBytes (message : RawMessage) : Vector UInt8 12 :=
  #v[message.tag, message.unread, message.type, message.reserved,
    byteOfWord message.first 0, byteOfWord message.first 1,
    byteOfWord message.first 2, byteOfWord message.first 3,
    byteOfWord message.second 0, byteOfWord message.second 1,
    byteOfWord message.second 2, byteOfWord message.second 3]

def ofBytes (bytes : Vector UInt8 12) : RawMessage where
  tag := bytes[0]
  unread := bytes[1]
  type := bytes[2]
  reserved := bytes[3]
  first := wordOfBytes bytes[4] bytes[5] bytes[6] bytes[7]
  second := wordOfBytes bytes[8] bytes[9] bytes[10] bytes[11]

end RawMessage

/-- A sync reply as it lies in memory. -/
structure RawSyncReply where
  tag : UInt8
  unread : UInt8
  type : UInt8
  reserved : UInt8
  syncInterval : UInt32
  sampleInterval : UInt32
  compensation : UInt32
  nextTimestamp : UInt64
  deriving DecidableEq, Repr, Inhabited

namespace RawSyncReply

def toBytes (reply : RawSyncReply) : Vector UInt8 24 :=
  #v[reply.tag, reply.unread, reply.type, reply.reserved,
    byteOfWord reply.syncInterval 0, byteOfWord reply.syncInterval 1,
    byteOfWord reply.syncInterval 2, byteOfWord reply.syncInterval 3,
    byteOfWord reply.sampleInterval 0, byteOfWord reply.sampleInterval 1,
    byteOfWord reply.sampleInterval 2, byteOfWord reply.sampleInterval 3,
    byteOfWord reply.compensation 0, byteOfWord reply.compensation 1,
    byteOfWord reply.compensation 2, byteOfWord reply.compensation 3,
    byteOfLong reply.nextTimestamp 0, byteOfLong reply.nextTimestamp 1,
    byteOfLong reply.nextTimestamp 2, byteOfLong reply.nextTimestamp 3,
    byteOfLong reply.nextTimestamp 4, byteOfLong reply.nextTimestamp 5,
    byteOfLong reply.nextTimestamp 6, byteOfLong reply.nextTimestamp 7]

def ofBytes (bytes : Vector UInt8 24) : RawSyncReply where
  tag := bytes[0]
  unread := bytes[1]
  type := bytes[2]
  reserved := bytes[3]
  syncInterval := wordOfBytes bytes[4] bytes[5] bytes[6] bytes[7]
  sampleInterval := wordOfBytes bytes[8] bytes[9] bytes[10] bytes[11]
  compensation := wordOfBytes bytes[12] bytes[13] bytes[14] bytes[15]
  nextTimestamp := joinWords (wordOfBytes bytes[16] bytes[17] bytes[18] bytes[19])
    (wordOfBytes bytes[20] bytes[21] bytes[22] bytes[23])

end RawSyncReply

end HarvestTestbed
