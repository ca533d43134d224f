import HarvestTestbed.Sync.Config
import HarvestTestbed.Mailbox.Channel
import HarvestTestbed.Journal

/-!
# The sync controller

Once per period the host compares the phase of the timer with the phase of its own clock.  The
error is folded into half a period on either side, and a proportional and an integral part of it
correct the length of the next period.  The correction is limited to a fraction of the period, so
a wrong measurement cannot throw the timer off.  Requests that follow each other too closely, or
after too long a gap, restart the controller.
-/

namespace HarvestTestbed

/-- The error in nanoseconds that corrects the period by one nanosecond. -/
def proportionalDivisor : Int := 128

/-- The summed error in nanoseconds that corrects the period by one nanosecond. -/
def integralDivisor : Int := 256

/-- A correction is at most this fraction of the period. -/
def correctionLimitDivisor : Int := 250

/-- Folds a phase error into half a period on either side of zero. -/
def foldError (error period : Int) : Int :=
  if error < (-period).tdiv 2 then error + period
  else if period.tdiv 2 < error then error - period
  else error

/-- The visible part of the controller, zero but for the period at every start. -/
structure SyncState where
  errorPrevious : Int := 0
  errorNow : Int := 0
  errorSum : Int := 0
  /-- The last correction in timer ticks. -/
  correction : Int := 0
  previousPeriod : UInt32
  deriving DecidableEq, Repr, Inhabited

/-- Verdict on the spacing between two consecutive requests. -/
inductive Spacing
  | regular
  /-- Outside the tolerated window; the controller carried on. -/
  | irregular (delta : Nat)
  /-- So far off that the other side must have restarted; the controller was reset. -/
  | restarted (delta : Nat)
  deriving DecidableEq, Repr

structure SyncOutcome where
  reply : SyncReply
  spacing : Spacing
  deriving DecidableEq, Repr

namespace SyncOutcome

/-- The journal line for a request that restarted the controller. -/
def notices (outcome : SyncOutcome) : List LogLine :=
  match outcome.spacing with
  | .restarted delta =>
      [⟨.warn, "sync requests " ++ toString delta ++ " ns apart, restarting controller"⟩]
  | _ => []

end SyncOutcome

structure SyncController where
  cfg : SyncConfig
  state : SyncState
  /-- The last period boundary announced to the timing core. -/
  boundary : UInt64
  /-- Whether the boundary was set by a request. -/
  anchored : Bool
  lastRequest : Option UInt64
  deriving DecidableEq, Repr

namespace SyncController

def nominalTicks (controller : SyncController) : UInt32 :=
  controller.cfg.nominalTicks

/-- A controller that has seen no request. -/
def start (cfg : SyncConfig) : SyncController :=
  { cfg := cfg
    state := { previousPeriod := cfg.nominalTicks }
    boundary := 0
    anchored := false
    lastRequest := none }

def new (cfg : SyncConfig) : Except Fault SyncController := do
  cfg.validate
  return start cfg

/-- Forgets everything but the last announced boundary, which the next request replaces. -/
def reset (controller : SyncController) : SyncController :=
  { start controller.cfg with boundary := controller.boundary }

def correctionLimit (controller : SyncController) : Int :=
  (controller.nominalTicks.toNat : Int).tdiv correctionLimitDivisor

/-- The correction in ticks for a folded error and the sum of all errors so far. -/
def correctionFor (controller : SyncController) (error sum : Int) : Int :=
  let nanoseconds := error.tdiv proportionalDivisor + sum.tdiv integralDivisor
  let limit := controller.correctionLimit
  max (-limit) (min (nanoseconds.tdiv (wrapInt64 controller.cfg.tick.toNat)) limit)

/-- Runs the control law on one raw phase error and answers the reply for the next period. -/
def applyError (controller : SyncController) (rawError : Int) : SyncReply × SyncController :=
  let cfg := controller.cfg
  let state := controller.state
  let error := foldError rawError (wrapInt64 cfg.period.toNat)
  let sum := clampInt64 (state.errorSum + error)
  let correction := controller.correctionFor error sum
  let period := UInt32.ofNat (controller.nominalTicks.toNat + correction).toNat
  let boundary := controller.boundary + period.toUInt64 * cfg.tick
  ({ syncInterval := period
     sampleInterval := period / cfg.samplesPerPeriod
     compensation := period % cfg.samplesPerPeriod
     nextTimestamp := boundary },
   { controller with
     state :=
       { errorPrevious := state.errorNow
         errorNow := error
         errorSum := sum
         correction := correction
         previousPeriod := period }
     boundary := boundary })

/-- Judges the spacing between a request and the last one.  A request that is not later than the
last, or more than two periods after it, comes from a restarted core; otherwise the spacing in
percent of the period has to lie in `[95, 105)`. -/
def spacing (controller : SyncController) (time : UInt64) : Spacing :=
  match controller.lastRequest with
  | none => .regular
  | some last =>
      let period := controller.cfg.period.toNat
      let delta := time.toNat - last.toNat
      let percent := delta * 100 / period
      if time ≤ last then .restarted 0
      else if 2 * period < delta then .restarted delta
      else if percent < 95 ∨ 105 ≤ percent then .irregular delta
      else .regular

/-- The controller that goes on with a request: a fresh one after a restart, and one that counts
periods from the boundary before the request if none was announced yet. -/
def prepare (controller : SyncController) (time : UInt64) : SyncController :=
  let kept := match controller.spacing time with
    | .restarted _ => controller.reset
    | _ => controller
  let noted := { kept with lastRequest := some time }
  if noted.anchored then noted
  else { noted with boundary := time - time % controller.cfg.period, anchored := true }

/-- The phase of the timer at a counter value, in nanoseconds. -/
def timerPhase (controller : SyncController) (counter : UInt32) : Int :=
  wrapInt64 (counter.toNat * controller.cfg.period.toNat /
    max controller.state.previousPeriod.toNat 1 : Nat)

/-- How far the phase of the timer is ahead of that of the host clock.  The difference is a signed
word, as both phases are. -/
def phaseError (controller : SyncController) (counter : UInt32) (time : UInt64) : Int :=
  let hostPhase := wrapInt64 (time % controller.cfg.period).toNat
  wrapInt64 (controller.timerPhase counter - hostPhase)

/-- Handles a request that carries the timer counter, given the host time at which the trigger was
raised. -/
def handleRequest (controller : SyncController) (counter : UInt32) (time : UInt64) :
    SyncOutcome × SyncController :=
  let spacing := controller.spacing time
  let prepared := controller.prepare time
  let answered := prepared.applyError (prepared.phaseError counter time)
  (⟨answered.1, spacing⟩, answered.2)

end SyncController

end HarvestTestbed
