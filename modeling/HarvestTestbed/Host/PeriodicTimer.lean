/-!
# Periodic timers

A periodic timer runs a task at a fixed rate until it is cancelled or the task asks to stop.  The
timer counts as running until it is cancelled, also when its task has stopped by itself.
-/

namespace HarvestTestbed

/-- A task that stops itself at its `limit`-th run; with limit zero it never does. -/
structure CountedTask where
  limit : Nat
  runs : Nat := 0
  deriving DecidableEq, Repr

namespace CountedTask

/-- One run of the task; false if it asks to stop. -/
def tick (task : CountedTask) : Bool × CountedTask :=
  let runs := task.runs + 1
  (runs != task.limit, { task with runs := runs })

/-- Runs the task until it stops itself, at most `fuel` times. -/
def finish (task : CountedTask) : Nat → Option CountedTask
  | 0 => none
  | fuel + 1 =>
      match task.tick with
      | (true, next) => next.finish fuel
      | (false, next) => some next

end CountedTask

structure PeriodicTimer where
  task : Option CountedTask := none
  deriving DecidableEq, Repr

namespace PeriodicTimer

def isRunning (timer : PeriodicTimer) : Bool :=
  timer.task.isSome

/-- Stops the running task; false if none was running. -/
def cancel (timer : PeriodicTimer) : Bool × PeriodicTimer :=
  (timer.isRunning, {})

/-- Starts a task, cancelling the previous one first. -/
def start (timer : PeriodicTimer) (limit : Nat) : PeriodicTimer :=
  { timer.cancel.2 with task := some { limit := limit } }

/-- The number of runs after which the running task stops itself, if it ever does. -/
def runsToStop (timer : PeriodicTimer) : Option Nat := do
  let task ← timer.task
  let finished ← task.finish task.limit
  return finished.runs

end PeriodicTimer

end HarvestTestbed
