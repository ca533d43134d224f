import HarvestTestbed.Arena.Basic

/-!
# Fields of the arena

Every word of the arena can be looked at, and overwritten, by its name.  An inspector uses this to
see the arena as the actors see it, and to provoke the memory faults that they have to survive.
-/

namespace HarvestTestbed

/-- A word of the arena. -/
structure ArenaField where
  name : String
  read : Arena → Nat
  /-- Overwrites the word with the lowest bits of a number. -/
  write : Nat → Arena → Arena
  /-- Whether the word has 64 bits. -/
  wide : Bool := false

namespace ArenaField

def word (name : String) (read : Arena → UInt32) (write : UInt32 → Arena → Arena) : ArenaField where
  name := name
  read := fun arena => (read arena).toNat
  write := fun value => write (.ofNat value)

def byte (name : String) (read : Arena → UInt8) (write : UInt8 → Arena → Arena) : ArenaField where
  name := name
  read := fun arena => (read arena).toNat
  write := fun value => write (.ofNat value)

def flag (name : String) (read : Arena → Flag) (write : Flag → Arena → Arena) : ArenaField :=
  byte name (fun arena => (read arena).byte) fun value => write ⟨value⟩

def ofSlot {words : Nat} (name : String) (read : Arena → Slot words)
    (write : Slot words → Arena → Arena) : List ArenaField :=
  [byte (name ++ ".tag") (fun arena => (read arena).tag)
      fun value arena => write { read arena with tag := value } arena,
    byte (name ++ ".unread") (fun arena => (read arena).unread)
      fun value arena => write { read arena with unread := value } arena,
    byte (name ++ ".msg_type") (fun arena => (read arena).type)
      fun value arena => write { read arena with type := value } arena,
    byte (name ++ ".reserved") (fun arena => (read arena).reserved)
      fun value arena => write { read arena with reserved := value } arena] ++
  (List.finRange words).map fun (index : Fin words) =>
    word (name ++ ".v" ++ toString index.val) (fun arena => (read arena).payload[index])
      fun value arena =>
        write { read arena with payload := (read arena).payload.set index value } arena

def ofStatus (name : String) (origin : Origin) : List ArenaField :=
  ofSlot name (fun arena => (arena.statusOf origin).slot)
      (fun slot arena => arena.setStatus origin { arena.statusOf origin with slot := slot }) ++
  [word (name ++ ".seq") (fun arena => (arena.statusOf origin).seq)
      fun value arena => arena.setStatus origin { arena.statusOf origin with seq := value },
    word (name ++ ".delivered") (fun arena => (arena.statusOf origin).delivered)
      fun value arena => arena.setStatus origin { arena.statusOf origin with delivered := value }]

def timestamp : ArenaField where
  name := "buffer_timestamp_ns"
  read := fun arena => arena.bufferTimestamp.toNat
  write := fun value arena => { arena with bufferTimestamp := .ofNat value }
  wide := true

/-- Every field but the slots of the free ring. -/
def summary : List ArenaField :=
  [word "canary" (·.canary) fun value arena => { arena with canary := value },
    word "session_state" (·.sessionState) fun value arena => { arena with sessionState := value },
    word "mode" (·.mode) fun value arena => { arena with mode := value },
    flag "pru0_reset_ack" (·.pru0ResetAck) fun value arena => { arena with pru0ResetAck := value },
    flag "pru1_reset_ack" (·.pru1ResetAck) fun value arena => { arena with pru1ResetAck := value },
    flag "sync_trigger" (·.syncTrigger) fun value arena => { arena with syncTrigger := value },
    flag "buffer_swap_trigger" (·.bufferSwapTrigger)
      fun value arena => { arena with bufferSwapTrigger := value },
    flag "sample_trigger" (·.sampleTrigger) fun value arena => { arena with sampleTrigger := value },
    timestamp,
    word "free_ring.head" (·.freeRing.head)
      fun value arena => { arena with freeRing := { arena.freeRing with head := value } },
    word "free_ring.tail" (·.freeRing.tail)
      fun value arena => { arena with freeRing := { arena.freeRing with tail := value } },
    word "edge_target.index" (·.edgeTarget.value.index)
      fun value arena =>
        { arena with edgeTarget := arena.edgeTarget.update ({ · with index := value }) },
    byte "edge_target.active" (·.edgeTarget.value.active.toUInt8)
      fun value arena =>
        { arena with edgeTarget := arena.edgeTarget.update ({ · with active := value != 0 }) },
    flag "split" (·.split) fun value arena => { arena with split := value }] ++
  ofSlot "pru0_to_host" (·.pru0ToHost) (fun slot arena => { arena with pru0ToHost := slot }) ++
  ofSlot "host_to_pru0" (·.hostToPru0) (fun slot arena => { arena with hostToPru0 := slot }) ++
  ofSlot "pru1_to_host" (·.pru1ToHost) (fun slot arena => { arena with pru1ToHost := slot }) ++
  ofSlot "host_to_pru1" (·.hostToPru1) (fun slot arena => { arena with hostToPru1 := slot }) ++
  ofStatus "host_status" .host ++ ofStatus "pru0_status" .pru0 ++ ofStatus "pru1_status" .pru1

def ringSlots : List ArenaField :=
  (List.finRange ringCapacity).map fun (index : Fin ringCapacity) =>
    word ("free_ring.slot." ++ toString index.val) (·.freeRing.slots[index])
      fun value arena =>
        { arena with freeRing :=
            { arena.freeRing with slots := arena.freeRing.slots.set index value } }

def ofName? (name : String) : Option ArenaField :=
  (summary ++ ringSlots).find? (·.name == name)

end ArenaField

end HarvestTestbed
