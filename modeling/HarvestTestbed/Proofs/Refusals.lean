import Mathlib.Logic.Function.Basic
import HarvestTestbed.Proofs.Custody

/-!
# Refused control operations

A process holds any number of arenas and pools.  An arena is split with one of the pools, its ports
are used in any order, and its words may be overwritten by a memory fault.  In whatever state this
leaves arenas and pools, a control operation that is refused changes nothing at all, so that it can
be called again as soon as its conditions are met.  For most operations the guard stands before the
first change.  Splitting is different: it raises the split flag first and lowers it again if the
pool is taken, which restores the flag only because the flag has never held anything but zero or
one.
-/

namespace HarvestTestbed

/-! ## Session control -/

inductive SessionCall
  | setState (next : SessionState)
  | setMode (mode : Mode)
  | requestReset
  | completeReset
  deriving DecidableEq, Repr

namespace SessionCall

def toOp : SessionCall → ArenaOp
  | setState next => .setState next
  | setMode mode => .setMode mode
  | requestReset => .requestReset
  | completeReset => .completeReset

def answer (memory : SharedMemory) : SessionCall → Except Fault Unit
  | setState next => (memory.setState next).1
  | setMode mode => (memory.setMode mode).1
  | requestReset => memory.requestReset.1
  | completeReset => memory.completeReset.1

/-- What a call is for. -/
def Done (memory : SharedMemory) : SessionCall → Prop
  | setState next => memory.state = next
  | setMode mode => memory.mode = mode
  | requestReset => memory.state = .reset
  | completeReset => memory.state = .idle

def Permitted (memory : SharedMemory) : SessionCall → Prop
  | setState next => memory.state.canMoveTo next = true
  | setMode _ => memory.state = .idle ∨ memory.state = .armed
  | requestReset => memory.state.canMoveTo .reset = true
  | completeReset => memory.ReadyToComplete

end SessionCall

namespace SharedMemory

/-- A move of the session is answered by the table of open moves alone. -/
theorem setState_eq_ok_iff (memory : SharedMemory) (next : SessionState) :
    (memory.setState next).1 = .ok () ↔ memory.state.canMoveTo next = true := by
  simp only [setState]
  split <;> simp_all

/-- A refused move leaves the memory as it was, the journal included. -/
theorem setState_of_closed {memory : SharedMemory} {next : SessionState}
    (hclosed : ¬ memory.state.canMoveTo next = true) : (memory.setState next).2 = memory := by
  simp only [setState, if_neg hclosed]

theorem setMode_eq_ok_iff (memory : SharedMemory) (mode : Mode) :
    (memory.setMode mode).1 = .ok () ↔ memory.state = .idle ∨ memory.state = .armed := by
  simp only [setMode]
  split <;> simp_all

theorem mode_setMode_of_open {memory : SharedMemory}
    (hopen : memory.state = .idle ∨ memory.state = .armed) (mode : Mode) :
    (memory.setMode mode).2.mode = mode := by
  simp only [setMode, if_pos hopen]
  exact Mode.ofWord_toWord mode

/-- A refused mode leaves the memory as it was. -/
theorem setMode_of_locked {memory : SharedMemory} {mode : Mode}
    (hlocked : ¬ (memory.state = .idle ∨ memory.state = .armed)) :
    (memory.setMode mode).2 = memory := by
  simp only [setMode, if_neg hlocked]

end SharedMemory

namespace SessionCall

variable {memory : SharedMemory}

/-- A call of session control succeeds under its conditions and no others. -/
theorem answer_eq_ok_iff (call : SessionCall) :
    call.answer memory = .ok () ↔ call.Permitted memory := by
  cases call with
  | setState next => exact memory.setState_eq_ok_iff next
  | setMode mode => exact memory.setMode_eq_ok_iff mode
  | requestReset => exact memory.setState_eq_ok_iff .reset
  | completeReset => exact memory.completeReset_eq_ok_iff

/-- A call that succeeds has done what it is for. -/
theorem done_of_permitted {call : SessionCall} (hpermitted : call.Permitted memory) :
    call.Done (call.toOp.apply memory) := by
  cases call with
  | setState next => exact (memory.state_setState next).trans (if_pos hpermitted)
  | setMode mode => exact SharedMemory.mode_setMode_of_open hpermitted mode
  | requestReset => exact (memory.state_setState .reset).trans (if_pos hpermitted)
  | completeReset =>
      obtain ⟨pool, -, hok⟩ := SharedMemory.completeReset_of_ready hpermitted
      have hcontrol := SharedMemory.control_afterReset hpermitted.1 pool
      have hidle : (memory.afterReset pool).state = .idle := by
        rw [SharedMemory.state_eq_control, hcontrol]
        exact SessionState.ofWord_toWord .idle
      exact (congrArg (fun outcome => SharedMemory.state outcome.2) hok).trans hidle

/-- A call that is refused has done nothing. -/
theorem apply_of_not_permitted {call : SessionCall} (hrefused : ¬ call.Permitted memory) :
    call.toOp.apply memory = memory := by
  cases call with
  | setState next => exact SharedMemory.setState_of_closed hrefused
  | setMode mode => exact SharedMemory.setMode_of_locked hrefused
  | requestReset => exact SharedMemory.setState_of_closed hrefused
  | completeReset =>
      obtain ⟨fault, herror⟩ := SharedMemory.completeReset_of_not_ready hrefused
      exact congrArg Prod.snd herror

end SessionCall

/-! ## Splitting -/

theorem checkCanary_eq_ok_iff (word : UInt32) : checkCanary word = .ok () ↔ word = canaryWord := by
  simp only [checkCanary]
  split <;> simp_all

/-- Whether the byte of a flag is one that raising and lowering leave there. -/
def Flag.Plain (flag : Flag) : Prop :=
  flag = .low ∨ flag = .raised

/-- A plain flag that reads as raised has the byte that raising writes, so to raise it
again changes nothing. -/
theorem Flag.Plain.eq_raised {flag : Flag} (h : flag.Plain) (hraised : flag.isRaised = true) :
    flag = .raised := by
  obtain rfl | rfl := h
  · cases hraised
  · rfl

theorem Flag.Plain.eq_low {flag : Flag} (h : flag.Plain) (hlow : ¬ flag.isRaised = true) :
    flag = .low := by
  obtain rfl | rfl := h
  · rfl
  · exact absurd rfl hlow

theorem BufferPool.attached_attach {pool next : BufferPool} (hattach : pool.attach = .ok next) :
    next.attached = true := by
  rw [attach] at hattach
  split at hattach
  · cases hattach
  · cases hattach
    rfl

theorem BufferPool.attached_of_attach {pool next : BufferPool} (hattach : pool.attach = .ok next) :
    pool.attached = false := by
  rw [attach] at hattach
  split at hattach
  · cases hattach
  · rename_i hfree
    exact eq_false_of_ne_true hfree

namespace SharedMemory

variable {memory : SharedMemory}

def ReadyToSplit (memory : SharedMemory) : Prop :=
  memory.arena.canary = canaryWord ∧ memory.arena.split.isRaised = false ∧
    memory.pool.attached = false

theorem split_of_ready (hready : memory.ReadyToSplit) : memory.split.1 = .ok () := by
  obtain ⟨hcanary, hsplit, hattached⟩ := hready
  simp [split, (checkCanary_eq_ok_iff _).mpr hcanary, hsplit, BufferPool.attach, hattached]

/-- A split that is refused, be it after the flag was raised, leaves the memory as it was. -/
theorem split_of_not_ready (hplain : memory.arena.split.Plain) (hready : ¬ memory.ReadyToSplit) :
    ∃ fault, memory.split = (.error fault, memory) := by
  simp only [split]
  split
  · exact ⟨_, rfl⟩
  rename_i hcanary
  split
  · rename_i hraised
    exact ⟨_, by rw [← hplain.eq_raised hraised]⟩
  rename_i hlow
  split
  · exact ⟨_, by rw [← hplain.eq_low hlow]⟩
  rename_i pool hattach
  exact absurd ⟨(checkCanary_eq_ok_iff _).mp hcanary, eq_false_of_ne_true hlow,
    BufferPool.attached_of_attach hattach⟩ hready

/-- With a plain flag an arena is split under its conditions and no others. -/
theorem split_eq_ok_iff (hplain : memory.arena.split.Plain) :
    memory.split.1 = .ok () ↔ memory.ReadyToSplit := by
  refine ⟨fun hok => ?_, split_of_ready⟩
  by_contra hready
  obtain ⟨fault, herror⟩ := split_of_not_ready hplain hready
  rw [herror] at hok
  cases hok

/-! ## The split flag along a run -/

/-- A split leaves the flag at a byte that splitting writes, also when it is refused. -/
theorem plain_split (hplain : memory.arena.split.Plain) : memory.split.2.arena.split.Plain := by
  by_cases hready : memory.ReadyToSplit
  · obtain ⟨pool, -, hsplit⟩ := split_of_ok (split_of_ready hready)
    rw [hsplit]
    exact .inr rfl
  · obtain ⟨fault, herror⟩ := split_of_not_ready hplain hready
    rw [herror]
    exact hplain

theorem splitFlag_notify (memory : SharedMemory) (origin : Origin) (code : StatusCode)
    (first second : UInt32) :
    (memory.notify origin code first second).arena.split = memory.arena.split := by
  cases origin <;> rfl

theorem hidesPublished_splitFlag : HidesPublished fun memory => memory.arena.split where
  log _ _ _ := rfl
  sessionState _ _ := rfl
  mode _ _ := rfl

theorem splitFlag_completeReset (memory : SharedMemory) :
    memory.completeReset.2.arena.split = memory.arena.split := by
  by_cases hready : memory.ReadyToComplete
  · obtain ⟨pool, -, hok⟩ := completeReset_of_ready hready
    rw [hok]
    exact hidesPublished_splitFlag.setState _ .idle
  · obtain ⟨fault, herror⟩ := completeReset_of_not_ready hready
    rw [herror]

theorem splitFlag_acquire (memory : SharedMemory) :
    memory.acquire.2.arena.split = memory.arena.split := by
  simp only [acquire]
  split
  · exact splitFlag_notify _ _ _ _ _
  · split
    · rfl
    · exact splitFlag_notify _ _ _ _ _

theorem splitFlag_release (memory : SharedMemory) (handle : ProducerHandle)
    (summary : BufferMeta) :
    (memory.release handle summary).2.arena.split = memory.arena.split := by
  simp only [release]
  split
  · rfl
  · split
    · rfl
    · exact splitFlag_notify _ _ _ _ _

theorem splitFlag_claim (memory : SharedMemory) (index : UInt32) :
    (memory.claim index).2.arena.split = memory.arena.split := by
  rw [claim]
  split
  · rfl
  · exact splitFlag_notify _ _ _ _ _

theorem splitFlag_recycle (memory : SharedMemory) (handle : ConsumerHandle) :
    (memory.recycle handle).2.arena.split = memory.arena.split := by
  simp only [recycle]
  split
  · rfl
  · exact splitFlag_notify _ _ _ _ _

end SharedMemory

/-- No port operation touches the flag of the split. -/
theorem ArenaOp.splitFlag_apply (op : ArenaOp) (memory : SharedMemory) :
    (op.apply memory).arena.split = memory.arena.split := by
  cases op with
  | notify origin code first second => exact memory.splitFlag_notify origin code first second
  | setState next => exact SharedMemory.hidesPublished_splitFlag.setState memory next
  | setMode mode => exact SharedMemory.hidesPublished_splitFlag.setMode memory mode
  | requestReset => exact SharedMemory.hidesPublished_splitFlag.setState memory .reset
  | completeReset => exact memory.splitFlag_completeReset
  | _ => rfl

/-- No port operation touches the split flag. -/
theorem Custody.splitFlag_step (custody : Custody) (op : PortOp) :
    (custody.step op).memory.arena.split = custody.memory.arena.split := by
  cases op with
  | acquire => exact custody.memory.splitFlag_acquire
  | claim index => exact custody.memory.splitFlag_claim index
  | arena op => exact op.splitFlag_apply custody.memory
  | put position index sample => simp only [step]; split <;> rfl
  | release position summary =>
      simp only [step]
      split
      · exact SharedMemory.splitFlag_release _ _ _
      · rfl
  | dropHandle position => simp only [step]; split <;> rfl
  | recycle position =>
      simp only [step]
      split
      · exact SharedMemory.splitFlag_recycle _ _
      · rfl
  | dropFilled position => simp only [step]; split <;> rfl

/-! ## The arenas and pools of a process -/

/-- What the ports of an arena go back to: the pool it was split with and the live handles. -/
structure Lease where
  pool : ℕ
  producers : List ProducerHandle := []
  consumers : List ConsumerHandle := []

/-- The arenas and the pools of a process, by number, with the journal and, for every arena that
was split, its lease. -/
structure Holdings where
  arenas : ℕ → Arena
  pools : ℕ → BufferPool
  leases : ℕ → Option Lease
  journal : Journal := #[]

inductive HoldingsEvent
  | split (arena pool : ℕ)
  /-- An operation of the ports of an arena, by whichever actor. -/
  | port (arena : ℕ) (op : PortOp)
  /-- A memory fault.  It reaches every word of the arena but the split flag, which only splitting
  writes. -/
  | overwrite (arena : ℕ) (words : Arena)

inductive ControlCall
  | split (arena pool : ℕ)
  | session (arena : ℕ) (call : SessionCall)

def ControlCall.toEvent : ControlCall → HoldingsEvent
  | split arena pool => .split arena pool
  | session arena call => .port arena (.arena call.toOp)

namespace Holdings

/-- New arenas beside the given pools. -/
def start (pools : ℕ → BufferPool) : Holdings where
  arenas := fun _ => {}
  pools := pools
  leases := fun _ => none

/-- What an arena and a pool are to each other's users. -/
def memory (holdings : Holdings) (arena pool : ℕ) : SharedMemory where
  arena := holdings.arenas arena
  pool := holdings.pools pool
  journal := holdings.journal

/-- Writes an arena and a pool back. -/
def store (holdings : Holdings) (arena pool : ℕ) (memory : SharedMemory) : Holdings :=
  { holdings with
    arenas := Function.update holdings.arenas arena memory.arena
    pools := Function.update holdings.pools pool memory.pool
    journal := memory.journal }

def setLease (holdings : Holdings) (arena : ℕ) (lease : Lease) : Holdings :=
  { holdings with leases := Function.update holdings.leases arena (some lease) }

/-- The ports of a split arena. -/
def custody (holdings : Holdings) (arena : ℕ) (lease : Lease) : Custody where
  memory := holdings.memory arena lease.pool
  producers := lease.producers
  consumers := lease.consumers

/-- One event; without its ports nothing can be done to an arena but to split it. -/
def step (holdings : Holdings) : HoldingsEvent → Holdings
  | .split arena pool =>
      let outcome := (holdings.memory arena pool).split
      let stored := holdings.store arena pool outcome.2
      match outcome.1 with
      | .ok () => stored.setLease arena { pool := pool }
      | .error _ => stored
  | .port arena op =>
      match holdings.leases arena with
      | some lease =>
          let stepped := (holdings.custody arena lease).step op
          (holdings.store arena lease.pool stepped.memory).setLease arena
            { lease with producers := stepped.producers, consumers := stepped.consumers }
      | none => holdings
  | .overwrite arena words =>
      { holdings with
        arenas := Function.update holdings.arenas arena
          { words with split := (holdings.arenas arena).split } }

def run (holdings : Holdings) (events : List HoldingsEvent) : Holdings :=
  events.foldl step holdings

/-- What a control operation leaves. -/
def after (holdings : Holdings) (call : ControlCall) : Holdings :=
  holdings.step call.toEvent

def answer? (holdings : Holdings) : ControlCall → Option (Except Fault Unit)
  | .split arena pool => some (holdings.memory arena pool).split.1
  | .session arena call =>
      (holdings.leases arena).map fun lease => call.answer (holdings.memory arena lease.pool)

def Permits (holdings : Holdings) : ControlCall → Prop
  | .split arena pool => (holdings.memory arena pool).ReadyToSplit
  | .session arena call =>
      ∃ lease, holdings.leases arena = some lease ∧
        call.Permitted (holdings.memory arena lease.pool)

/-- What a control operation is for. -/
def Done (holdings : Holdings) : ControlCall → Prop
  | .split arena pool =>
      (holdings.memory arena pool).arena.split = .raised ∧
        (holdings.memory arena pool).pool.attached = true ∧
        holdings.leases arena = some { pool := pool }
  | .session arena call =>
      ∃ lease, holdings.leases arena = some lease ∧ call.Done (holdings.memory arena lease.pool)

/-- A control operation succeeds if it is answered so and does what it is for. -/
def Succeeds (holdings : Holdings) (call : ControlCall) : Prop :=
  holdings.answer? call = some (.ok ()) ∧ (holdings.after call).Done call

/-- What holds after a control operation that was refused. -/
structure Harmless (holdings : Holdings) (call : ControlCall) : Prop where
  /-- Every arena, every pool, every lease and the journal are as before. -/
  unchanged : holdings.after call = holdings
  /-- Whatever happens next, an operation succeeds as soon as its conditions hold, and no
  sooner. -/
  later : ∀ events next, ((holdings.after call).run events).Succeeds next ↔
    ((holdings.after call).run events).Permits next
  /-- An arena refused because of its pool can be split with any other that is free. -/
  otherPool : ∀ arena pool other, call = .split arena pool →
    (holdings.arenas arena).canary = canaryWord →
    (holdings.arenas arena).split.isRaised = false →
    (holdings.pools other).attached = false →
      (holdings.after call).Succeeds (.split arena other)

variable {holdings : Holdings}

theorem store_memory (holdings : Holdings) (arena pool : ℕ) :
    holdings.store arena pool (holdings.memory arena pool) = holdings := by
  simp [store, memory]

theorem memory_store (holdings : Holdings) (arena pool : ℕ) (memory : SharedMemory) :
    (holdings.store arena pool memory).memory arena pool = memory := by
  simp [store, Holdings.memory]

theorem memory_setLease (holdings : Holdings) (arena : ℕ) (lease : Lease) :
    (holdings.setLease arena lease).memory = holdings.memory :=
  rfl

theorem leases_setLease (holdings : Holdings) (arena : ℕ) (lease : Lease) :
    (holdings.setLease arena lease).leases arena = some lease :=
  Function.update_self ..

theorem setLease_of_eq {arena : ℕ} {lease : Lease} (hlease : holdings.leases arena = some lease) :
    holdings.setLease arena lease = holdings := by
  simp [setLease, ← hlease]

theorem after_split {arena pool : ℕ} (hok : (holdings.memory arena pool).split.1 = .ok ()) :
    holdings.after (.split arena pool) =
      (holdings.store arena pool (holdings.memory arena pool).split.2).setLease arena
        { pool := pool } := by
  simp only [after, ControlCall.toEvent, step, hok]

theorem after_session {arena : ℕ} {lease : Lease} (hlease : holdings.leases arena = some lease)
    (call : SessionCall) :
    holdings.after (.session arena call) =
      (holdings.store arena lease.pool
        (call.toOp.apply (holdings.memory arena lease.pool))).setLease arena lease := by
  simp only [after, ControlCall.toEvent, step, hlease, Custody.step, custody]

/-- No split flag ever holds anything but zero or one. -/
def Plain (holdings : Holdings) : Prop :=
  ∀ arena, (holdings.arenas arena).split.Plain

theorem plain_start (pools : ℕ → BufferPool) : (start pools).Plain :=
  fun _ => .inl rfl

theorem Plain.update (h : holdings.Plain) {arena : ℕ} {words : Arena} (hwords : words.split.Plain)
    (other : ℕ) : (Function.update holdings.arenas arena words other).split.Plain := by
  by_cases hother : other = arena
  · rw [hother, Function.update_self]
    exact hwords
  · rw [Function.update_of_ne hother]
    exact h other

/-- Only a split writes a split flag, and it keeps it plain. -/
theorem Plain.step (h : holdings.Plain) (event : HoldingsEvent) :
    (holdings.step event).Plain := by
  cases event with
  | split arena pool =>
      have hflag : (holdings.memory arena pool).split.2.arena.split.Plain :=
        SharedMemory.plain_split (h arena)
      simp only [Holdings.step]
      split <;> exact h.update hflag
  | port arena op =>
      simp only [Holdings.step]
      split
      · rename_i lease _
        refine h.update ?_
        rw [Custody.splitFlag_step]
        exact h arena
      · exact h
  | overwrite arena words => exact h.update (h arena)

theorem Plain.run (h : holdings.Plain) (events : List HoldingsEvent) :
    (holdings.run events).Plain := by
  induction events generalizing holdings with
  | nil => exact h
  | cons event events ih => exact ih (h.step event)

theorem answer?_eq_ok_iff (h : holdings.Plain) (call : ControlCall) :
    holdings.answer? call = some (.ok ()) ↔ holdings.Permits call := by
  cases call with
  | split arena pool =>
      rw [answer?, Option.some_inj]
      exact SharedMemory.split_eq_ok_iff (h arena)
  | session arena call =>
      simp only [answer?, Permits, Option.map_eq_some_iff, call.answer_eq_ok_iff]

theorem done_of_permits {call : ControlCall} (hpermits : holdings.Permits call) :
    (holdings.after call).Done call := by
  cases call with
  | split arena pool =>
      have hok := SharedMemory.split_of_ready hpermits
      obtain ⟨attached, hattach, hsplit⟩ := SharedMemory.split_of_ok hok
      simp only [Done, after_split hok, hsplit, memory_setLease, memory_store]
      exact ⟨rfl, BufferPool.attached_attach hattach, leases_setLease _ _ _⟩
  | session arena call =>
      obtain ⟨lease, hlease, hpermitted⟩ := hpermits
      simp only [Done, after_session hlease, leases_setLease, memory_setLease]
      refine ⟨lease, rfl, ?_⟩
      rw [memory_store]
      exact call.done_of_permitted hpermitted

/-- Success is decided by the conditions before the call. -/
theorem succeeds_iff (h : holdings.Plain) (call : ControlCall) :
    holdings.Succeeds call ↔ holdings.Permits call := by
  rw [Succeeds, answer?_eq_ok_iff h call]
  exact and_iff_left_of_imp done_of_permits

/-- A refused operation changes nothing. -/
theorem after_of_error (h : holdings.Plain) {call : ControlCall} {fault : Fault}
    (hrefused : holdings.answer? call = some (.error fault)) : holdings.after call = holdings := by
  have hclosed : ¬ holdings.Permits call := by
    intro hpermits
    rw [(answer?_eq_ok_iff h call).mpr hpermits] at hrefused
    cases hrefused
  cases call with
  | split arena pool =>
      obtain ⟨fault, herror⟩ := SharedMemory.split_of_not_ready (h arena) hclosed
      simp only [after, ControlCall.toEvent, step, herror, store_memory]
  | session arena call =>
      obtain ⟨lease, hlease, -⟩ := Option.map_eq_some_iff.mp hrefused
      have hkept : call.toOp.apply (holdings.memory arena lease.pool) =
          holdings.memory arena lease.pool :=
        SessionCall.apply_of_not_permitted fun hpermitted => hclosed ⟨lease, hlease, hpermitted⟩
      rw [after_session hlease, hkept, store_memory]
      exact setLease_of_eq hlease

/-- In every state that a process can reach with its arenas and pools, a control operation that is
refused leaves everything as it was, and nothing stands in the way of calling it, or splitting the
arena with another pool, later. -/
theorem harmless_of_refused {pools : ℕ → BufferPool} {events : List HoldingsEvent}
    {call : ControlCall} {fault : Fault}
    (hrefused : ((start pools).run events).answer? call = some (.error fault)) :
    ((start pools).run events).Harmless call := by
  have hplain := (plain_start pools).run events
  have hunchanged := after_of_error hplain hrefused
  refine ⟨hunchanged, ?_, ?_⟩
  · intro more next
    rw [hunchanged]
    exact succeeds_iff (hplain.run more) next
  · intro arena pool other _ hcanary hsplit hattached
    rw [hunchanged, succeeds_iff hplain]
    exact ⟨hcanary, hsplit, hattached⟩

/-- A second arena is refused the pool of the first and takes another one. -/
theorem harmless_of_refused_shared :
    let pools : ℕ → BufferPool := fun _ => { entries := #[{ buffer := .ofCapacity 1 }] }
    let holdings := (start pools).run [.split 0 0]
    holdings.answer? (.split 1 0) = some (.error .alreadyInstantiated) ∧
      holdings.Harmless (.split 1 0) ∧
      (holdings.after (.split 1 0)).Succeeds (.split 1 1) := by
  intro pools holdings
  have hrefused : holdings.answer? (.split 1 0) = some (.error .alreadyInstantiated) := rfl
  have hharmless : holdings.Harmless (.split 1 0) := harmless_of_refused hrefused
  exact ⟨hrefused, hharmless, hharmless.otherPool 1 0 1 rfl rfl rfl rfl⟩

end Holdings

end HarvestTestbed
