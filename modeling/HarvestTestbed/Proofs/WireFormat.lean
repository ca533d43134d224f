import Mathlib
import HarvestTestbed.Proofs.OnePlace

/-!
# The wire format

What lies in a slot is told in two ways: as a raw message that is encoded and decoded as a whole,
and as the row of words that a sender fills one by one.  This file proves that the two agree byte
for byte.  Encoding and decoding are inverse to each other over every message and every row of
bytes, and an accepted send leaves the encoding of its raw message.

The timestamp of a sync reply is where they differ.  The codec writes it as one value of eight bytes
and reads it as two words, and a sender splits it into words, the low one first
(`wordBytes_halves`).
-/

namespace HarvestTestbed

/-! ## Words and their bytes -/

/-- Four bytes as the digits of a word to base 256. -/
theorem toNat_wordOfBytes (b0 b1 b2 b3 : UInt8) :
    (wordOfBytes b0 b1 b2 b3).toNat =
      b0.toNat + 256 * b1.toNat + 65536 * b2.toNat + 16777216 * b3.toNat := by
  have h0 := b0.toNat_lt
  have h1 := b1.toNat_lt
  have h2 := b2.toNat_lt
  have h3 := b3.toNat_lt
  rw [wordOfBytes, UInt32.toNat_ofNat_of_lt']
  rw [UInt32.size]
  omega

/-- A byte of a word as a digit to base 256. -/
theorem toNat_byteOfWord (word : UInt32) (index : ℕ) :
    (byteOfWord word index).toNat = word.toNat / 256 ^ index % 256 := by
  rw [byteOfWord, UInt8.toNat_ofNat', Nat.shiftRight_eq_div_pow, Nat.pow_mul]

theorem toNat_byteOfLong (value : UInt64) (index : ℕ) :
    (byteOfLong value index).toNat = value.toNat / 256 ^ index % 256 := by
  rw [byteOfLong, UInt8.toNat_ofNat', Nat.shiftRight_eq_div_pow, Nat.pow_mul]

theorem wordOfBytes_bytes (word : UInt32) :
    wordOfBytes (byteOfWord word 0) (byteOfWord word 1) (byteOfWord word 2) (byteOfWord word 3) =
      word := by
  have hword := word.toNat_lt
  apply UInt32.toNat_inj.mp
  simp only [toNat_wordOfBytes, toNat_byteOfWord]
  omega

theorem wordBytes_ofBytes (b0 b1 b2 b3 : UInt8) :
    wordBytes (wordOfBytes b0 b1 b2 b3) = [b0, b1, b2, b3] := by
  have h0 := b0.toNat_lt
  have h1 := b1.toNat_lt
  have h2 := b2.toNat_lt
  have h3 := b3.toNat_lt
  simp only [wordBytes, List.cons.injEq, and_true, ← UInt8.toNat_inj, toNat_byteOfWord,
    toNat_wordOfBytes]
  omega

/-! ## The halves of a 64-bit value -/

def longBytes (value : UInt64) : List UInt8 :=
  (List.range 8).map (byteOfLong value)

theorem toNat_joinWords (low high : UInt32) :
    (joinWords low high).toNat = low.toNat + UInt32.size * high.toNat := by
  have hlow := low.toNat_lt
  have hhigh := high.toNat_lt
  rw [joinWords, UInt64.toNat_ofNat_of_lt']
  rw [UInt32.size, UInt64.size]
  omega

theorem lowWord_joinWords (low high : UInt32) : lowWord (joinWords low high) = low := by
  apply UInt32.toNat_inj.mp
  rw [Channel.toNat_lowWord, toNat_joinWords, Nat.add_mul_mod_self_left,
    Nat.mod_eq_of_lt low.toNat_lt]

theorem highWord_joinWords (low high : UInt32) : highWord (joinWords low high) = high := by
  apply UInt32.toNat_inj.mp
  rw [Channel.toNat_highWord, toNat_joinWords, Nat.add_mul_div_left _ _ (by decide),
    Nat.div_eq_of_lt low.toNat_lt, Nat.zero_add]

/-- The bytes of the two halves, the low one first, are the bytes of the whole. -/
theorem wordBytes_halves (value : UInt64) :
    wordBytes (lowWord value) ++ wordBytes (highWord value) = longBytes value := by
  simp only [wordBytes, longBytes, List.range_succ, List.range_zero, List.nil_append,
    List.cons_append, List.map_cons, List.map_nil, List.cons.injEq, and_true, ← UInt8.toNat_inj,
    toNat_byteOfWord, toNat_byteOfLong, Channel.toNat_lowWord, Channel.toNat_highWord,
    UInt32.size]
  omega

/-- A value split into halves has the bytes of the low half first. -/
theorem longBytes_joinWords (low high : UInt32) :
    longBytes (joinWords low high) = wordBytes low ++ wordBytes high := by
  rw [← wordBytes_halves, lowWord_joinWords, highWord_joinWords]

/-! ## Raw messages -/

namespace RawMessage

def sent (origin : Origin) (type : MessageType) (first second : UInt32) : RawMessage :=
  ⟨origin.toByte, 1, type.toByte, 0, first, second⟩

theorem toList_toBytes (message : RawMessage) :
    message.toBytes.toList =
      [message.tag, message.unread, message.type, message.reserved] ++
        (wordBytes message.first ++ wordBytes message.second) :=
  rfl

theorem ofBytes_toBytes (message : RawMessage) : ofBytes message.toBytes = message := by
  have hfirst := wordOfBytes_bytes message.first
  have hsecond := wordOfBytes_bytes message.second
  simp [ofBytes, toBytes, hfirst, hsecond]

theorem toBytes_ofBytes (bytes : Vector UInt8 12) : (ofBytes bytes).toBytes = bytes := by
  apply Vector.toList_inj.mp
  rw [toList_toBytes]
  simp only [ofBytes, wordBytes_ofBytes]
  apply List.ext_getElem
  · simp
  · intro index _ hindex
    rw [Vector.length_toList] at hindex
    interval_cases index <;> rfl

end RawMessage

namespace RawSyncReply

def sent (origin : Origin) (reply : SyncReply) : RawSyncReply :=
  ⟨origin.toByte, 1, MessageType.syncReply.toByte, 0, reply.syncInterval, reply.sampleInterval,
    reply.compensation, reply.nextTimestamp⟩

theorem toList_toBytes (reply : RawSyncReply) :
    reply.toBytes.toList =
      [reply.tag, reply.unread, reply.type, reply.reserved] ++
        (wordBytes reply.syncInterval ++ wordBytes reply.sampleInterval ++
          wordBytes reply.compensation ++ longBytes reply.nextTimestamp) :=
  rfl

/-- The words that the timestamp is read as are its halves. -/
theorem joinWords_bytes (value : UInt64) :
    joinWords
        (wordOfBytes (byteOfLong value 0) (byteOfLong value 1) (byteOfLong value 2)
          (byteOfLong value 3))
        (wordOfBytes (byteOfLong value 4) (byteOfLong value 5) (byteOfLong value 6)
          (byteOfLong value 7)) = value := by
  have hhalves := wordBytes_halves value
  simp only [wordBytes, longBytes, List.range_succ, List.range_zero, List.nil_append,
    List.cons_append, List.map_cons, List.map_nil, List.cons.injEq, and_true] at hhalves
  obtain ⟨h0, h1, h2, h3, h4, h5, h6, h7⟩ := hhalves
  rw [← h0, ← h1, ← h2, ← h3, ← h4, ← h5, ← h6, ← h7, wordOfBytes_bytes, wordOfBytes_bytes,
    Channel.joinWords_words]

theorem ofBytes_toBytes (reply : RawSyncReply) : ofBytes reply.toBytes = reply := by
  have hsync := wordOfBytes_bytes reply.syncInterval
  have hsample := wordOfBytes_bytes reply.sampleInterval
  have hcompensation := wordOfBytes_bytes reply.compensation
  have htimestamp := joinWords_bytes reply.nextTimestamp
  simp [ofBytes, toBytes, hsync, hsample, hcompensation, htimestamp]

theorem toBytes_ofBytes (bytes : Vector UInt8 24) : (ofBytes bytes).toBytes = bytes := by
  apply Vector.toList_inj.mp
  rw [toList_toBytes]
  simp only [ofBytes, wordBytes_ofBytes, longBytes_joinWords]
  apply List.ext_getElem
  · simp
  · intro index _ hindex
    rw [Vector.length_toList] at hindex
    interval_cases index <;> rfl

end RawSyncReply

/-! ## What a send leaves in a slot -/

def Packet.image {words : ℕ} (packet : Packet words) : List UInt8 :=
  [packet.tag, 1, packet.type, 0] ++ packet.payload.toList.flatMap wordBytes

/-- What lies in the slot after a send is the image of the packet; the reserved
byte was zero before. -/
theorem Slot.wireBytes_write? {words : ℕ} {slot written : Slot words} {packet : Packet words}
    (hreserved : slot.reserved = 0) (hwritten : slot.write? packet = some written) :
    written.wireBytes = packet.image := by
  rw [write?] at hwritten
  split at hwritten
  · cases hwritten
  · cases hwritten
    rw [wireBytes, hreserved, Packet.image]

namespace Channel

variable {words : ℕ} {slot : Slot words} {packet : Packet words}

/-- An accepted send leaves the image of its packet, whatever the slot held before. -/
theorem wireBytes_sendPacket (hreserved : slot.reserved = 0) {origin : Origin} {status : StatusSlot}
    {type : MessageType} {first : UInt32}
    (haccepted : (sendPacket origin slot status packet type first).accepted = true) :
    (sendPacket origin slot status packet type first).slot.wireBytes = packet.image := by
  cases hwritten : slot.write? packet with
  | none => simp [sendPacket, hwritten] at haccepted
  | some written =>
    simp only [sendPacket, hwritten]
    exact Slot.wireBytes_write? hreserved hwritten

theorem wireBytes_trySendPacket {α : Type} {message : α} (hreserved : slot.reserved = 0)
    (haccepted : (trySendPacket slot packet message).1 = .ok ()) :
    (trySendPacket slot packet message).2.wireBytes = packet.image := by
  cases hwritten : slot.write? packet with
  | none => simp [trySendPacket, hwritten] at haccepted
  | some written =>
    simp only [trySendPacket, hwritten]
    exact Slot.wireBytes_write? hreserved hwritten

theorem image_packet (origin : Origin) (type : MessageType) (first second : UInt32) :
    (Channel.packet origin type first second).image =
      (RawMessage.sent origin type first second).toBytes.toList := by
  rw [RawMessage.toList_toBytes]
  rfl

theorem image_replyPacket (origin : Origin) (reply : SyncReply) :
    (replyPacket origin reply).image = (RawSyncReply.sent origin reply).toBytes.toList := by
  rw [RawSyncReply.toList_toBytes]
  simp [Packet.image, replyPacket, SyncReply.toWords, RawSyncReply.sent, ← wordBytes_halves]

/-- The slot alone decides whether a message is accepted. -/
theorem accepted_sendPacket (origin : Origin) (status : StatusSlot) (type : MessageType)
    (first : UInt32) :
    (sendPacket origin slot status packet type first).accepted = !slot.isUnread := by
  cases hunread : slot.isUnread <;> simp [sendPacket, Slot.write?, hunread]

theorem accepted_trySendPacket {α : Type} (message : α) :
    (trySendPacket slot packet message).1 = .ok () ↔ slot.isUnread = false := by
  cases hunread : slot.isUnread <;> simp [trySendPacket, Slot.write?, hunread]

end Channel

/-- Sending a message is refused while another is unread, and leaves the given bytes otherwise. -/
structure Ends.Writes {words : ℕ} {α β : Type} (ends : Ends words α β) (slot : Slot words)
    (message : α) (image : List UInt8) : Prop where
  accepted : ∀ status, (ends.send slot status message).accepted = !slot.isUnread
  send : ∀ status, (ends.send slot status message).accepted = true →
    (ends.send slot status message).slot.wireBytes = image
  tryAccepted : (ends.trySend slot message).1 = .ok () ↔ slot.isUnread = false
  trySend : (ends.trySend slot message).1 = .ok () →
    (ends.trySend slot message).2.wireBytes = image

namespace Channel

theorem writes_messageEnds {slot : Slot 2} (hreserved : slot.reserved = 0) (writer reader : Origin)
    (message : MessageType × UInt32 × UInt32) :
    (messageEnds writer reader).Writes slot message
      (RawMessage.sent writer message.1 message.2.1 message.2.2).toBytes.toList := by
  rw [← image_packet]
  exact {
    accepted := fun status => accepted_sendPacket writer status message.1 message.2.1
    send := fun _ haccepted => wireBytes_sendPacket hreserved haccepted
    tryAccepted := accepted_trySendPacket _
    trySend := fun haccepted => wireBytes_trySendPacket hreserved haccepted }

theorem writes_replyEnds {slot : Slot 5} (hreserved : slot.reserved = 0) (writer reader : Origin)
    (reply : SyncReply) :
    (replyEnds writer reader).Writes slot reply (RawSyncReply.sent writer reply).toBytes.toList := by
  rw [← image_replyPacket]
  exact {
    accepted := fun status => accepted_sendPacket writer status .syncReply reply.syncInterval
    send := fun _ haccepted => wireBytes_sendPacket hreserved haccepted
    tryAccepted := accepted_trySendPacket _
    trySend := fun haccepted => wireBytes_trySendPacket hreserved haccepted }

end Channel

/-- Encoding and decoding are inverse to each other for messages and for sync replies, and a send
that is accepted leaves the encoding of its raw message: the tag of the writer, the mark, the type
and the payload. -/
theorem encodings_agree :
    (Function.LeftInverse RawMessage.ofBytes RawMessage.toBytes ∧
        Function.RightInverse RawMessage.ofBytes RawMessage.toBytes) ∧
      (Function.LeftInverse RawSyncReply.ofBytes RawSyncReply.toBytes ∧
        Function.RightInverse RawSyncReply.ofBytes RawSyncReply.toBytes) ∧
      (∀ (writer reader : Origin) (slot : Slot 2) (message : MessageType × UInt32 × UInt32),
        slot.reserved = 0 →
          (Channel.messageEnds writer reader).Writes slot message
            (RawMessage.sent writer message.1 message.2.1 message.2.2).toBytes.toList) ∧
      ∀ (writer reader : Origin) (slot : Slot 5) (reply : SyncReply), slot.reserved = 0 →
        (Channel.replyEnds writer reader).Writes slot reply
          (RawSyncReply.sent writer reply).toBytes.toList :=
  ⟨⟨RawMessage.ofBytes_toBytes, RawMessage.toBytes_ofBytes⟩,
    ⟨RawSyncReply.ofBytes_toBytes, RawSyncReply.toBytes_ofBytes⟩,
    fun writer reader _ message hreserved =>
      Channel.writes_messageEnds hreserved writer reader message,
    fun writer reader _ reply hreserved => Channel.writes_replyEnds hreserved writer reader reply⟩

/-- A ping and a reply are sent into slots that still hold what was read before. -/
theorem encodings_agree_reused :
    let slot : Slot 2 := ⟨0x50, 0, 0x31, 0, #v[7, 8]⟩
    let replySlot : Slot 5 := ⟨0xa5, 0, 0x21, 0, #v[1, 2, 3, 4, 5]⟩
    let reply : SyncReply := ⟨20000123, 2000, 123, 0x0123456789abcdef⟩
    (slot.reserved = 0 ∧
        (Channel.messageEnds .pru1 .host).Writes slot (.ping, 0xdeadbeef, 42)
          [0x51, 1, 0x30, 0, 0xef, 0xbe, 0xad, 0xde, 42, 0, 0, 0]) ∧
      replySlot.reserved = 0 ∧
        (Channel.replyEnds .host .pru1).Writes replySlot reply
          [0xa5, 1, 0x21, 0, 0x7b, 0x2d, 0x31, 0x01, 0xd0, 0x07, 0, 0, 123, 0, 0, 0,
            0xef, 0xcd, 0xab, 0x89, 0x67, 0x45, 0x23, 0x01] := by
  intro slot replySlot reply
  obtain ⟨-, -, hmessage, hreply⟩ := encodings_agree
  have himage : (RawSyncReply.sent .host reply).toBytes.toList =
      [0xa5, 1, 0x21, 0, 0x7b, 0x2d, 0x31, 0x01, 0xd0, 0x07, 0, 0, 123, 0, 0, 0,
        0xef, 0xcd, 0xab, 0x89, 0x67, 0x45, 0x23, 0x01] := by decide +kernel
  exact ⟨⟨rfl, hmessage .pru1 .host slot (.ping, 0xdeadbeef, 42) rfl⟩,
    rfl, himage ▸ hreply .host .pru1 replySlot reply rfl⟩

end HarvestTestbed
