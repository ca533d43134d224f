import HarvestTestbed.Arena.HostEnd
import HarvestTestbed.Arena.SessionControl

/-!
# The message pump

The pump collects the status events of all actors and the announcements of the sampling core.  A
filled buffer is shown to the sink, recycled and summarized for the supervisor.  A violation of the
sync protocol moves the session to the fault state.  Events go to the supervisor through a queue;
when the queue is full, or nobody listens, they are only journalled.
-/

namespace HarvestTestbed

/-- Summary of a buffer handed over by the sampling core. -/
structure BufferSummary where
  index : UInt32
  timestamp : UInt64
  samples : Nat
  edges : Nat
  edgesDropped : UInt32
  util : Utilization
  inputPower : UInt64
  deriving DecidableEq, Repr

/-- Events forwarded to the supervisor. -/
inductive HostEvent
  | buffer (summary : BufferSummary)
  | pong (first second : UInt32)
  | status (event : StatusEvent)
  deriving DecidableEq, Repr

structure EventQueue where
  /-- The number of events that may wait; unbounded if absent. -/
  capacity : Option Nat := none
  /-- Whether the supervisor still listens. -/
  listening : Bool := true
  events : Array HostEvent := #[]
  deriving DecidableEq, Repr

namespace EventQueue

def hasRoom (queue : EventQueue) : Bool :=
  queue.listening && (queue.capacity.all fun capacity => queue.events.size < capacity)

/-- Queues an event, or drops it. -/
def offer (queue : EventQueue) (event : HostEvent) : EventQueue :=
  if queue.hasRoom then { queue with events := queue.events.push event } else queue

def drain (queue : EventQueue) : Array HostEvent × EventQueue :=
  (queue.events, { queue with events := #[] })

/-- The supervisor goes away, and with it whatever was waiting. -/
def hangUp (queue : EventQueue) : EventQueue :=
  { queue with listening := false, events := #[] }

end EventQueue

structure PumpStats where
  buffers : Nat := 0
  samples : Nat := 0
  statuses : Nat := 0
  faults : Nat := 0
  deriving DecidableEq, Repr, Inhabited

structure MessagePump where
  queue : EventQueue := {}
  stats : PumpStats := {}
  deriving DecidableEq, Repr

/-- A claimed buffer as its reader sees it. -/
structure FilledBuffer where
  index : UInt32
  buffer : SampleBuffer
  edges : EdgeLog
  deriving DecidableEq, Repr

/-- What a consumer handle gives access to. -/
def BufferPool.view (pool : BufferPool) (handle : ConsumerHandle) : FilledBuffer :=
  match pool.entry? handle.index with
  | some entry => ⟨handle.index, entry.buffer, entry.edges⟩
  | none => ⟨handle.index, .ofCapacity 0, {}⟩

namespace FilledBuffer

def summary (filled : FilledBuffer) : BufferSummary where
  index := filled.index
  timestamp := filled.buffer.timestamp
  samples := filled.buffer.length
  edges := filled.edges.events.size
  edgesDropped := filled.edges.dropped
  util := filled.buffer.util
  inputPower := filled.buffer.inputPower

end FilledBuffer

namespace MessagePump

def forward (pump : MessagePump) (event : HostEvent) : MessagePump :=
  { pump with queue := pump.queue.offer event }

def ping (memory : SharedMemory) (first second : UInt32) : Bool × SharedMemory :=
  memory.pumpSend .ping first second

def statusText (event : StatusEvent) : String :=
  event.origin.name ++ ": " ++ event.code.name ++ " [" ++ hexText event.first.toNat ++ ", " ++
    hexText event.second.toNat ++ "]"

/-- Moves the session to the fault state after a violation of the sync protocol. -/
def declareFault (pump : MessagePump) (memory : SharedMemory) (event : StatusEvent) :
    MessagePump × SharedMemory :=
  if event.code = .syncStateViolation ∧ memory.state ≠ .fault then
    ({ pump with stats := { pump.stats with faults := pump.stats.faults + 1 } },
      (memory.setState .fault).2)
  else (pump, memory)

def onStatus (pump : MessagePump) (memory : SharedMemory) (event : StatusEvent) :
    MessagePump × SharedMemory :=
  let counted := { pump with stats := { pump.stats with statuses := pump.stats.statuses + 1 } }
  let noted := memory.log event.code.logLevel (statusText event)
  let declared := counted.declareFault noted event
  (declared.1.forward (.status event), declared.2)

def onStatuses (pump : MessagePump) (memory : SharedMemory) :
    List StatusEvent → MessagePump × SharedMemory
  | [] => (pump, memory)
  | event :: events =>
      let handled := pump.onStatus memory event
      handled.1.onStatuses handled.2 events

def bufferText (summary : BufferSummary) : String :=
  "buffer " ++ toString summary.index.toNat ++ " at " ++ toString summary.timestamp.toNat ++
    " ns: " ++ toString summary.samples ++ " samples"

/-- Handles the announcement of a buffer: the sink sees it, then it is recycled.  A refused claim
has been reported already. -/
def onBuffer (pump : MessagePump) (memory : SharedMemory) (index : UInt32) :
    Option FilledBuffer × MessagePump × SharedMemory :=
  match memory.claim index with
  | (none, memory) => (none, pump, memory)
  | (some handle, memory) =>
      let filled := memory.pool.view handle
      let summary := filled.summary
      let recycled := (memory.recycle handle).2
      let counted :=
        { pump with
          stats := { pump.stats with
            buffers := pump.stats.buffers + 1
            samples := pump.stats.samples + summary.samples } }
      (some filled, counted.forward (.buffer summary),
        recycled.log .debug (bufferText summary))

def onMessage (pump : MessagePump) (memory : SharedMemory) (message : Message) :
    Option FilledBuffer × MessagePump × SharedMemory :=
  match message.type with
  | .bufferFilled => pump.onBuffer memory message.first
  | .pong => (none, pump.forward (.pong message.first message.second), memory)
  | other => (none, pump, memory.notify .host .invalidCommand other.toWord message.first)

structure Serviced where
  /-- Whether anything was received. -/
  busy : Bool
  /-- The buffer shown to the sink. -/
  consumed : Option FilledBuffer
  pump : MessagePump
  memory : SharedMemory

/-- Handles every pending status event and at most one message. -/
def service (pump : MessagePump) (memory : SharedMemory) : Serviced :=
  let polled := memory.pollStatus
  let handled := pump.onStatuses polled.2 polled.1
  match handled.2.pumpReceive with
  | (none, memory) => ⟨!polled.1.isEmpty, none, handled.1, memory⟩
  | (some message, memory) =>
      let served := handled.1.onMessage memory message
      ⟨true, served.1, served.2.1, served.2.2⟩

end MessagePump

end HarvestTestbed
