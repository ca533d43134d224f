import HarvestTestbed.Buffer.EdgeTarget
import HarvestTestbed.Buffer.FreeRing
import HarvestTestbed.Mailbox.Channel
import HarvestTestbed.Journal
import HarvestTestbed.Signal

/-!
# The shared arena

The arena is the one structure that the host and both real-time cores touch.  Every field has one
writer: the host publishes session state and mode, raises the sync trigger and fills the tail of
the free ring; the timing core raises the swap and sample triggers; the sampling core takes from
the head of the ring and directs the edge target; each channel and status slot belongs to its
sender.  Together with the buffer pool it makes up the memory that the actors share.  An arena is
split among the actors once, and with one pool.
-/

namespace HarvestTestbed

structure Arena where
  canary : UInt32 := canaryWord
  sessionState : UInt32 := SessionState.idle.toWord
  mode : UInt32 := Mode.emulate.toWord
  pru0ResetAck : Flag := {}
  pru1ResetAck : Flag := {}
  syncTrigger : Flag := {}
  bufferSwapTrigger : Flag := {}
  sampleTrigger : Flag := {}
  /-- Timestamp of the period announced by the last swap trigger. -/
  bufferTimestamp : UInt64 := 0
  pru0ToHost : Slot 2 := {}
  hostToPru0 : Slot 2 := {}
  pru1ToHost : Slot 2 := {}
  hostToPru1 : Slot 5 := {}
  hostStatus : StatusSlot := {}
  pru0Status : StatusSlot := {}
  pru1Status : StatusSlot := {}
  freeRing : FreeRing := {}
  edgeTarget : Guarded EdgeTarget := ⟨{}⟩
  /-- Whether the actors have taken their ends. -/
  split : Flag := {}
  deriving DecidableEq, Repr

namespace Arena

instance : Inhabited Arena := ⟨{}⟩

def byteSize : Nat := 432

/-- The session state as every actor reads it. -/
def state (arena : Arena) : SessionState :=
  SessionState.ofWord arena.sessionState

/-- The mode as every actor reads it. -/
def activeMode (arena : Arena) : Mode :=
  Mode.ofWord arena.mode

/-- Empties every channel and status slot, lowers every flag and stops edge capture. -/
def clearChannels (arena : Arena) : Arena :=
  { arena with
    pru0ToHost := arena.pru0ToHost.clear
    hostToPru0 := arena.hostToPru0.clear
    pru1ToHost := arena.pru1ToHost.clear
    hostToPru1 := arena.hostToPru1.clear
    hostStatus := arena.hostStatus.clear
    pru0Status := arena.pru0Status.clear
    pru1Status := arena.pru1Status.clear
    pru0ResetAck := .low
    pru1ResetAck := .low
    syncTrigger := .low
    bufferSwapTrigger := .low
    sampleTrigger := .low
    edgeTarget := ⟨{}⟩ }

/-- The indices of the buffers that belong into the free ring, in order. -/
def freeIndices (pool : BufferPool) : List UInt32 :=
  ((List.range pool.size).map UInt32.ofNat).filter fun index =>
    pool.owner? index = some .freeRing

def refillRing (arena : Arena) (pool : BufferPool) : Arena :=
  { arena with
    freeRing := (freeIndices pool).foldl
      (fun ring index => (ring.push? index).getD ring) arena.freeRing.reset }

def statusOf (arena : Arena) : Origin → StatusSlot
  | .host => arena.hostStatus
  | .pru0 => arena.pru0Status
  | .pru1 => arena.pru1Status

def setStatus (arena : Arena) (origin : Origin) (status : StatusSlot) : Arena :=
  match origin with
  | .host => { arena with hostStatus := status }
  | .pru0 => { arena with pru0Status := status }
  | .pru1 => { arena with pru1Status := status }

/-- Reports an event on the status slot of an actor; false if it lies there already. -/
def report (arena : Arena) (origin : Origin) (code : StatusCode) (first second : UInt32) :
    Bool × Arena :=
  let reported := (arena.statusOf origin).report origin code first second
  (reported.1, arena.setStatus origin reported.2)

end Arena

/-- Everything the actors share, with the journal of what they did. -/
structure SharedMemory where
  arena : Arena := {}
  pool : BufferPool
  journal : Journal := #[]
  deriving DecidableEq, Repr

namespace SharedMemory

def log (memory : SharedMemory) (level : LogLevel) (text : String) : SharedMemory :=
  { memory with journal := memory.journal.push ⟨level, text⟩ }

def mapArena (memory : SharedMemory) (change : Arena → Arena) : SharedMemory :=
  { memory with arena := change memory.arena }

def state (memory : SharedMemory) : SessionState :=
  memory.arena.state

def mode (memory : SharedMemory) : Mode :=
  memory.arena.activeMode

def report (memory : SharedMemory) (origin : Origin) (code : StatusCode) (first second : UInt32) :
    Bool × SharedMemory :=
  let reported := memory.arena.report origin code first second
  (reported.1, { memory with arena := reported.2 })

/-- Reports an event where nobody asks whether it was new. -/
def notify (memory : SharedMemory) (origin : Origin) (code : StatusCode) (first second : UInt32) :
    SharedMemory :=
  (memory.report origin code first second).2

/-- Splits the arena among the actors and fills the free ring with every buffer of the pool.  An
arena is split once, and a pool that serves another arena is refused with the arena left
unsplit. -/
def split (memory : SharedMemory) : Except Fault Unit × SharedMemory :=
  match checkCanary memory.arena.canary with
  | .error fault => (.error fault, memory)
  | .ok () =>
      let claimed := { memory.arena with split := .raised }
      if memory.arena.split.isRaised then
        (.error .alreadyInstantiated, { memory with arena := claimed })
      else
        match memory.pool.attach with
        | .error fault => (.error fault, { memory with arena := { claimed with split := .low } })
        | .ok pool =>
            (.ok (), { memory with arena := claimed.clearChannels.refillRing pool, pool := pool })

end SharedMemory

end HarvestTestbed
