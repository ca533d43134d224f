import HarvestTestbed.Session.LoopState
import HarvestTestbed.Sync.Client
import HarvestTestbed.Sync.Config
import HarvestTestbed.Timing.Timer

/-!
# The timing loop

The timer wraps once per period.  At every wrap the loop applies the last sync reply, announces the
new period and starts pacing its samples through the sample compare.  The ticks of a period that
are left over when it is divided among its samples are spent on the first samples, one each.
-/

namespace HarvestTestbed

structure TimingStats where
  periods : Nat := 0
  samples : Nat := 0
  syncRequests : Nat := 0
  repliesApplied : Nat := 0
  edges : Nat := 0
  edgesDropped : Nat := 0
  /-- Sample ticks raised while the previous one was still pending. -/
  overruns : Nat := 0
  deriving DecidableEq, Repr, Inhabited

structure TimingLoop (T : Type) where
  timer : T
  cfg : SyncConfig
  client : SyncClient := {}
  state : LoopState := .reset
  resetAcked : Bool := false
  nextReply : Option SyncReply := none
  periodTicks : UInt32
  sampleInterval : UInt32
  compensation : UInt32
  compensationLeft : UInt32 := 0
  nextCompare : UInt32 := 0
  sampleIndex : UInt32 := 0
  periodTimestamp : UInt64 := 0
  lastGpio : UInt32 := 0
  stats : TimingStats := {}

namespace TimingLoop

variable {T : Type} [Timer T]

/-- The loop of a core that has just been started; the timer is not touched. -/
def new (timer : T) (cfg : SyncConfig) : TimingLoop T :=
  let samples := max cfg.samplesPerPeriod 1
  { timer := timer
    cfg := cfg
    periodTicks := cfg.nominalTicks
    sampleInterval := cfg.nominalTicks / samples
    compensation := cfg.nominalTicks % samples }

/-- Sets the length of the following periods and divides it among the samples. -/
def applyPeriod (loop : TimingLoop T) (ticks : UInt32) : TimingLoop T :=
  let samples := max loop.cfg.samplesPerPeriod 1
  { loop with
    periodTicks := ticks
    sampleInterval := ticks / samples
    compensation := ticks % samples
    timer := Timer.setPeriod loop.timer ticks }

/-- Forgets the session; the timer keeps running. -/
def clear (loop : TimingLoop T) : TimingLoop T :=
  { ({ loop with client := loop.client.reset, nextReply := none }.applyPeriod
      loop.cfg.nominalTicks) with
    sampleIndex := 0
    periodTimestamp := 0 }

/-- Acknowledges the reset request, once per stay in the reset state of the session. -/
def acknowledge (loop : TimingLoop T) (memory : SharedMemory) : TimingLoop T × SharedMemory :=
  if loop.resetAcked then (loop, memory)
  else ({ loop with stats := {}, resetAcked := true }, memory.timingAcknowledge)

def stepReset (loop : TimingLoop T) (memory : SharedMemory) :
    LoopState × TimingLoop T × SharedMemory :=
  let cleared := loop.clear
  if memory.state = .reset then (.reset, cleared.acknowledge memory)
  else (.awaitStart, { cleared with resetAcked := false }, memory)

/-- Forgets wraps and matches from before the start. -/
def discardEvents (loop : TimingLoop T) : TimingLoop T :=
  let timer := (Timer.takeSampleMatch (Timer.takeWrap loop.timer).2).2
  { loop with timer := timer, lastGpio := Timer.gpio timer }

/-- A step while waiting for the start.  A trigger raised before the start belongs to no
session. -/
def stepAwaitStart (loop : TimingLoop T) (memory : SharedMemory) :
    LoopState × TimingLoop T × SharedMemory :=
  let taken := memory.takeSyncTrigger.2
  match taken.state with
  | .running => (.running, loop.discardEvents, taken)
  | .reset => (.reset, loop, taken)
  | .fault => (.fault, loop, taken)
  | .idle | .armed => (.awaitStart, loop, taken)

/-- Answers the sync trigger if it is raised; false if that violates the protocol. -/
def serveTrigger (loop : TimingLoop T) (memory : SharedMemory) :
    Bool × TimingLoop T × SharedMemory :=
  match memory.takeSyncTrigger with
  | (false, memory) => (true, loop, memory)
  | (true, memory) =>
      let counter := Timer.counter loop.timer
      match loop.client.onTrigger counter memory with
      | (.requested, client, memory) =>
          (true, { loop with
            client := client
            stats := { loop.stats with syncRequests := loop.stats.syncRequests + 1 } }, memory)
      | (.lost, client, memory) => (true, { loop with client := client }, memory)
      | (.violation, client, memory) =>
          (false, { loop with client := client },
            memory.notify .pru1 .syncStateViolation counter 0)

/-- Keeps a reply for the next wrap; one that nobody asked for is reported. -/
def serveReply (loop : TimingLoop T) (memory : SharedMemory) : TimingLoop T × SharedMemory :=
  match memory.receiveReply with
  | (none, memory) => (loop, memory)
  | (some reply, memory) =>
      match loop.client.onReply reply with
      | (some reply, client) => ({ loop with client := client, nextReply := some reply }, memory)
      | (none, client) =>
          ({ loop with client := client },
            memory.notify .pru1 .invalidCommand reply.syncInterval 0)

/-- Arms the compare of the next sample, if the period has one left. -/
def armNext (loop : TimingLoop T) : TimingLoop T :=
  if loop.sampleIndex < loop.cfg.samplesPerPeriod then
    let extra : UInt32 := if 0 < loop.compensationLeft then 1 else 0
    let compare := loop.nextCompare + (loop.sampleInterval + extra)
    { loop with
      compensationLeft := loop.compensationLeft - extra
      nextCompare := compare
      timer := Timer.setSampleCompare loop.timer compare }
  else loop

/-- Announces a sample tick and arms the next one. -/
def sample (loop : TimingLoop T) (memory : SharedMemory) : TimingLoop T × SharedMemory :=
  let stats := loop.stats
  let counted :=
    { loop with
      stats := { stats with
        samples := stats.samples + 1
        overruns := if memory.samplePending then stats.overruns + 1 else stats.overruns }
      sampleIndex := loop.sampleIndex + 1 }
  (counted.armNext, memory.raiseSample)

/-- Applies the reply for the period that begins, or extends the timeline by the period that has
elapsed. -/
def applyReply (loop : TimingLoop T) : TimingLoop T :=
  match loop.nextReply with
  | some reply =>
      let applied := { loop with nextReply := none }.applyPeriod reply.syncInterval
      { applied with
        sampleInterval := reply.sampleInterval
        compensation := reply.compensation
        periodTimestamp := reply.nextTimestamp
        stats := { applied.stats with repliesApplied := applied.stats.repliesApplied + 1 } }
  | none =>
      let elapsed := loop.periodTicks.toUInt64 * loop.cfg.tick
      { loop with periodTimestamp := loop.periodTimestamp + elapsed }

/-- Begins a period with its first sample. -/
def beginPeriod (loop : TimingLoop T) (memory : SharedMemory) : TimingLoop T × SharedMemory :=
  let applied := loop.applyReply
  let opened :=
    { applied with
      stats := { applied.stats with periods := applied.stats.periods + 1 }
      sampleIndex := 0
      compensationLeft := applied.compensation
      nextCompare := 0 }
  opened.sample (memory.raiseBufferSwap applied.periodTimestamp)

/-- Handles a wrap or, if there is none, a sample match. -/
def serveTimer (loop : TimingLoop T) (memory : SharedMemory) : TimingLoop T × SharedMemory :=
  match Timer.takeWrap loop.timer with
  | (true, timer) => { loop with timer := timer }.beginPeriod memory
  | (false, timer) =>
      match Timer.takeSampleMatch timer with
      | (true, timer) => { loop with timer := timer }.sample memory
      | (false, timer) => ({ loop with timer := timer }, memory)

/-- Logs a change of the monitored lines with the present sample. -/
def captureEdges (loop : TimingLoop T) (memory : SharedMemory) : TimingLoop T × SharedMemory :=
  let levels := Timer.gpio loop.timer
  if levels = loop.lastGpio then (loop, memory)
  else
    let event : EdgeEvent :=
      { sampleIndex := Saturating.sub32 loop.sampleIndex 1
        timestamp :=
          loop.periodTimestamp + (Timer.counter loop.timer).toUInt64 * loop.cfg.tick
        levels := levels }
    let recorded := memory.recordEdge event
    let stats := loop.stats
    ({ loop with
       lastGpio := levels
       stats :=
         if recorded.1 then { stats with edges := stats.edges + 1 }
         else { stats with edgesDropped := stats.edgesDropped + 1 } },
      recorded.2)

def work (loop : TimingLoop T) (memory : SharedMemory) :
    LoopState × TimingLoop T × SharedMemory :=
  match loop.serveTrigger memory with
  | (false, loop, memory) => (.fault, loop, memory)
  | (true, loop, memory) =>
      let replied := loop.serveReply memory
      let timed := replied.1.serveTimer replied.2
      (.running, timed.1.captureEdges timed.2)

def stepRunning (loop : TimingLoop T) (memory : SharedMemory) :
    LoopState × TimingLoop T × SharedMemory :=
  match memory.state with
  | .running => loop.work memory
  | .reset => (.reset, loop, memory)
  | .fault => (.fault, loop, memory)
  | .idle | .armed => (.awaitStart, loop, memory)

def stepFault (loop : TimingLoop T) (memory : SharedMemory) :
    LoopState × TimingLoop T × SharedMemory :=
  (if memory.state = .reset then .reset else .fault, loop, memory)

def dispatch (loop : TimingLoop T) (memory : SharedMemory) :
    LoopState × TimingLoop T × SharedMemory :=
  match loop.state with
  | .reset => loop.stepReset memory
  | .awaitStart => loop.stepAwaitStart memory
  | .running => loop.stepRunning memory
  | .fault => loop.stepFault memory

/-- One step of the loop.  A change of state is journalled. -/
def step (loop : TimingLoop T) (memory : SharedMemory) : TimingLoop T × SharedMemory :=
  match loop.dispatch memory with
  | (next, moved, memory) =>
      if next = loop.state then (moved, memory)
      else
        ({ moved with state := next },
          memory.log .debug ("pru1 " ++ loop.state.name ++ " -> " ++ next.name))

/-- Steps until the stop flag reads as raised, for the given readings of the flag. -/
def run (loop : TimingLoop T) (memory : SharedMemory) :
    List Bool → TimingLoop T × SharedMemory
  | [] => (loop, memory)
  | true :: _ => (loop, memory)
  | false :: stops =>
      let stepped := loop.step memory
      stepped.1.run stepped.2 stops

end TimingLoop

end HarvestTestbed
