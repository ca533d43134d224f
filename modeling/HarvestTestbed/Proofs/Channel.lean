import HarvestTestbed.Mailbox.Channel

/-!
# The message that waits on a channel

A slot is looked at through the one message its reader would get.  A send that is accepted puts its
message there, a refused one changes nothing, and a receive takes it away.
-/

namespace HarvestTestbed.Channel

/-- The message that a reader expecting a given origin would receive. -/
def waiting? (expected : Origin) (slot : Slot 2) : Option Message :=
  (tryReceive expected slot).1.toOption

def filled (origin : Origin) (slot : Slot 2) (type : MessageType) (first second : UInt32) :
    Slot 2 :=
  let packet := packet origin type first second
  { slot with tag := packet.tag, unread := 1, type := packet.type, payload := packet.payload }

@[simp]
theorem isUnread_filled (origin : Origin) (slot : Slot 2) (type : MessageType)
    (first second : UInt32) : (filled origin slot type first second).isUnread = true :=
  rfl

/-- The message sent is the message that waits. -/
theorem waiting?_filled {type : MessageType} (htype : type ≠ .none) (origin : Origin)
    (slot : Slot 2) (first second : UInt32) :
    waiting? origin (filled origin slot type first second) =
      some ⟨origin, type, first, second⟩ := by
  have htake : tryTake origin (filled origin slot type first second) =
      (.ok (type, WordPair.of first second),
        { filled origin slot type first second with unread := 0 }) := by
    simp only [tryTake, Slot.take?, isUnread_filled, if_true]
    simp only [filled, packet, if_true, MessageType.ofByte?_toByte]
  simp only [waiting?, tryReceive, htake]
  rfl

theorem waiting?_of_read {expected : Origin} {slot : Slot 2} (hread : slot.isUnread = false) :
    waiting? expected slot = none := by
  simp only [waiting?, tryReceive, tryTake, Slot.take?, hread]
  rfl

theorem send_of_read {origin : Origin} {slot : Slot 2} (hread : slot.isUnread = false)
    (status : StatusSlot) (type : MessageType) (first second : UInt32) :
    send origin slot status type first second =
      ⟨true, filled origin slot type first second, status⟩ := by
  simp only [send, sendPacket, Slot.write?, hread]
  rfl

theorem send_of_unread {origin : Origin} {slot : Slot 2} (hunread : slot.isUnread = true)
    (status : StatusSlot) (type : MessageType) (first second : UInt32) :
    send origin slot status type first second =
      ⟨false, slot, (status.report origin .backpressure type.toWord first).2⟩ := by
  simp only [send, sendPacket, Slot.write?, hunread]
  rfl

/-- A receive answers the message that waits. -/
theorem answer_receive (reader expected : Origin) (slot : Slot 2) (status : StatusSlot) :
    (receive reader expected slot status).answer = waiting? expected slot := by
  simp only [receive, settle, waiting?]
  generalize tryReceive expected slot = taken
  obtain ⟨result, rest⟩ := taken
  cases result <;> rfl

/-- Taking a packet leaves none behind. -/
theorem isUnread_tryTake {words : Nat} (expected : Origin) (slot : Slot words) :
    (tryTake expected slot).2.isUnread = false := by
  simp only [tryTake, Slot.take?]
  by_cases hunread : slot.isUnread = true
  · simp only [hunread, if_true]
    split
    · split <;> rfl
    · rfl
  · simp only [if_neg hunread]
    exact Bool.eq_false_iff.mpr hunread

/-- A receive leaves no message behind. -/
theorem isUnread_receive (reader expected : Origin) (slot : Slot 2) (status : StatusSlot) :
    (receive reader expected slot status).slot.isUnread = false := by
  have hslot : (receive reader expected slot status).slot = (tryTake expected slot).2 := by
    simp only [receive, settle, tryReceive]
    generalize tryTake expected slot = taken
    obtain ⟨result, rest⟩ := taken
    cases result <;> rfl
  rw [hslot]
  exact isUnread_tryTake expected slot

/-! ## Replies -/

theorem toNat_lowWord (value : UInt64) : (lowWord value).toNat = value.toNat % UInt32.size :=
  UInt32.toNat_ofNat_of_lt' (Nat.mod_lt _ (by decide))

theorem toNat_highWord (value : UInt64) : (highWord value).toNat = value.toNat / UInt32.size :=
  UInt32.toNat_ofNat_of_lt' (Nat.div_lt_of_lt_mul value.toNat_lt)

theorem joinWords_words (value : UInt64) : joinWords (lowWord value) (highWord value) = value := by
  rw [joinWords, toNat_lowWord, toNat_highWord, Nat.mod_add_div, UInt64.ofNat_toNat]

theorem ofWords_toWords (reply : SyncReply) : SyncReply.ofWords reply.toWords = reply := by
  have htimestamp := joinWords_words reply.nextTimestamp
  simp [SyncReply.ofWords, SyncReply.toWords, htimestamp]

/-- The reply that a reader expecting a given origin would receive. -/
def waitingReply? (expected : Origin) (slot : Slot 5) : Option SyncReply :=
  (tryReceiveReply expected slot).1.toOption

def replied (origin : Origin) (slot : Slot 5) (reply : SyncReply) : Slot 5 :=
  let packet := replyPacket origin reply
  { slot with tag := packet.tag, unread := 1, type := packet.type, payload := packet.payload }

@[simp]
theorem isUnread_replied (origin : Origin) (slot : Slot 5) (reply : SyncReply) :
    (replied origin slot reply).isUnread = true :=
  rfl

theorem waitingReply?_replied (origin : Origin) (slot : Slot 5) (reply : SyncReply) :
    waitingReply? origin (replied origin slot reply) = some reply := by
  have htake : tryTake origin (replied origin slot reply) =
      (.ok (.syncReply, reply.toWords), { replied origin slot reply with unread := 0 }) := by
    simp only [tryTake, Slot.take?, isUnread_replied, if_true]
    simp only [replied, replyPacket, if_true, MessageType.ofByte?_toByte]
  simp only [waitingReply?, tryReceiveReply, htake]
  exact congrArg some (ofWords_toWords reply)

theorem sendReply_of_read {origin : Origin} {slot : Slot 5} (hread : slot.isUnread = false)
    (status : StatusSlot) (reply : SyncReply) :
    sendReply origin slot status reply = ⟨true, replied origin slot reply, status⟩ := by
  simp only [sendReply, sendPacket, Slot.write?, hread]
  rfl

theorem waitingReply?_of_read {expected : Origin} {slot : Slot 5} (hread : slot.isUnread = false) :
    waitingReply? expected slot = none := by
  simp only [waitingReply?, tryReceiveReply, tryTake, Slot.take?, hread]
  rfl

/-- A receive answers the reply that waits. -/
theorem answer_receiveReply (reader expected : Origin) (slot : Slot 5) (status : StatusSlot) :
    (receiveReply reader expected slot status).answer = waitingReply? expected slot := by
  simp only [receiveReply, settle, waitingReply?]
  generalize tryReceiveReply expected slot = taken
  obtain ⟨result, rest⟩ := taken
  cases result <;> rfl

/-- A receive leaves no reply behind. -/
theorem isUnread_receiveReply (reader expected : Origin) (slot : Slot 5) (status : StatusSlot) :
    (receiveReply reader expected slot status).slot.isUnread = false := by
  have hslot : (receiveReply reader expected slot status).slot = (tryTake expected slot).2 := by
    simp only [receiveReply, settle, tryReceiveReply]
    generalize tryTake expected slot = taken
    obtain ⟨result, rest⟩ := taken
    cases result with
    | error fault => rfl
    | ok content =>
        simp only [Except.bind]
        split <;> rename_i heq <;> split at heq <;> cases heq <;> rfl
  rw [hslot]
  exact isUnread_tryTake expected slot

end HarvestTestbed.Channel
