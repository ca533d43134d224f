import HarvestTestbed.Arena.Basic

/-!
# Session control

The host moves the session from state to state, selects the mode and runs the reset handshake:
both cores are asked to drop their session state, each acknowledges, and the host then clears every
channel, takes every buffer back and returns to idle.  A refused operation changes nothing.
-/

namespace HarvestTestbed.SharedMemory

/-- Moves the session to `next` if that move is open. -/
def setState (memory : SharedMemory) (next : SessionState) : Except Fault Unit × SharedMemory :=
  let current := memory.state
  if current.canMoveTo next then
    let noted := memory.log .info ("session " ++ current.name ++ " -> " ++ next.name)
    (.ok (), noted.mapArena fun arena => { arena with sessionState := next.toWord })
  else (.error (.invalidTransition current next), memory)

/-- Selects the mode; only before the session runs. -/
def setMode (memory : SharedMemory) (mode : Mode) : Except Fault Unit × SharedMemory :=
  let current := memory.state
  if current = .idle ∨ current = .armed then
    let noted := memory.log .info ("mode " ++ mode.name)
    (.ok (), noted.mapArena fun arena => { arena with mode := mode.toWord })
  else (.error (.invalidConfig (.modeLocked current)), memory)

def requestReset (memory : SharedMemory) : Except Fault Unit × SharedMemory :=
  memory.setState .reset

def resetAcknowledged (memory : SharedMemory) : Bool :=
  memory.arena.pru0ResetAck.isRaised && memory.arena.pru1ResetAck.isRaised

/-- Finishes a reset; refused while a buffer handle is alive, so that the host can recycle its
buffers and try again. -/
def completeReset (memory : SharedMemory) : Except Fault Unit × SharedMemory :=
  if memory.state ≠ .reset then
    (.error (.invalidTransition memory.state .idle), memory)
  else if !memory.resetAcknowledged then
    (.error .resetPending, memory)
  else
    match memory.pool.reclaim with
    | .error fault => (.error fault, memory)
    | .ok pool =>
        let cleared : SharedMemory :=
          { memory with arena := memory.arena.clearChannels.refillRing pool, pool := pool }
        (cleared.notify .host .restart 0 0).setState .idle

end HarvestTestbed.SharedMemory
