import HarvestTestbed.Arena.HostEnd
import HarvestTestbed.Sync.Alignment
import HarvestTestbed.Sync.Controller

/-!
# The sync service

The host end of the clock synchronization raises the trigger at the period boundaries of its clock,
remembers when it did, and answers the request that the timing core sends in return.  A request
without a trigger, or a message of another type, is reported and dropped.
-/

namespace HarvestTestbed

structure SyncService where
  controller : SyncController
  aligner : TriggerAligner
  clock : SteppingClock
  /-- When the trigger that is still unanswered was raised. -/
  triggerTime : Option UInt64 := none
  deriving DecidableEq, Repr

namespace SyncService

def new (cfg : SyncConfig) (clock : SteppingClock) : Except Fault SyncService := do
  let controller ← SyncController.new cfg
  return { controller := controller, aligner := .new cfg, clock := clock }

/-- Waits for the next period boundary and raises the trigger.  After a missed boundary no trigger
is raised. -/
def trigger (service : SyncService) (memory : SharedMemory) :
    Alignment × SyncService × SharedMemory :=
  let waited := service.aligner.wait service.clock
  let moved := { service with aligner := waited.2.1, clock := waited.2.2 }
  match waited.1 with
  | .aligned deadline late =>
      (waited.1, { moved with triggerTime := some (deadline + late) }, memory.raiseSyncTrigger)
  | .resynced next missed =>
      (waited.1, moved, memory.log .warn ("sync trigger missed " ++ toString missed.toNat ++
        " periods, next at " ++ toString next.toNat ++ " ns"))
  | .stalled => (waited.1, moved, memory)

def reportSpacing (memory : SharedMemory) (spacing : Spacing) (counter : UInt32) :
    SharedMemory :=
  match spacing with
  | .regular => memory
  | .irregular delta =>
      (memory.log .warn ("sync requests " ++ toString delta ++ " ns apart")).notify
        .host .doubtfulTimestamp (clampWord32 delta) counter
  | .restarted delta => memory.notify .host .doubtfulTimestamp (clampWord32 delta) counter

/-- Sends a reply; a refusal is journalled. -/
def deliver (memory : SharedMemory) (reply : SyncReply) : SharedMemory :=
  match memory.sendReply reply with
  | (true, memory) => memory
  | (false, memory) => memory.log .warn "sync reply refused, previous reply still unread"

def stateText (state : SyncState) : String :=
  "sync error " ++ toString state.errorNow ++ " ns, correction " ++ toString state.correction ++
    " ticks"

/-- Whether the schedule has to be found anew after a request. -/
def realign (aligner : TriggerAligner) : Spacing → TriggerAligner
  | .restarted _ => aligner.resync
  | _ => aligner

def answer (service : SyncService) (memory : SharedMemory) (counter : UInt32) (time : UInt64) :
    SyncOutcome × SyncService × SharedMemory :=
  let handled := service.controller.handleRequest counter time
  let noted := handled.1.notices.foldl (fun memory line => memory.log line.level line.text) memory
  let delivered := deliver noted handled.1.reply
  let reported := reportSpacing delivered handled.1.spacing counter
  (handled.1,
    { service with
      controller := handled.2
      aligner := realign service.aligner handled.1.spacing
      triggerTime := none },
    reported.log .trace (stateText handled.2.state))

def serve (service : SyncService) (memory : SharedMemory) :
    Option SyncOutcome × SyncService × SharedMemory :=
  match memory.syncReceive with
  | (none, memory) => (none, service, memory)
  | (some message, memory) =>
      if message.type = .syncRequest then
        match service.triggerTime with
        | some time =>
            let answered := service.answer memory message.first time
            (some answered.1, answered.2)
        | none =>
            (none, service, memory.notify .host .invalidCommand message.type.toWord message.first)
      else (none, service, memory.notify .host .invalidCommand message.type.toWord message.first)

def reset (service : SyncService) : SyncService :=
  { service with
    controller := service.controller.reset
    aligner := service.aligner.resync
    triggerTime := none }

end SyncService

end HarvestTestbed
