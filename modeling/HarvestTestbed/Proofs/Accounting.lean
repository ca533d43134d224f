import HarvestTestbed.Proofs.NoLoss

/-!
# What becomes of a finished buffer

A swap that finds a buffer being filled finishes it.  A finished buffer is announced at once, waits
to be announced, or is used again for the next period because an older one still waits.  The loop
counts the buffers that it handed over and those that it used again, and the pump shows the sink
what is announced.  The slot of the announcements is shared with the answers to pings, so an
announcement may also be refused when none is unread.

The accounts are kept as a relation of two moments, which adds up along a run.
-/

namespace HarvestTestbed

/-- How many announcements wait for the host, one at most. -/
def SharedMemory.announcements (memory : SharedMemory) : ℕ :=
  memory.announcedIndex?.toList.length

/-- The buffers finished since the loop was started or last acknowledged a reset: handed over, used
again, or waiting. -/
def SamplingLoop.finished {F : Type} (loop : SamplingLoop F) : ℕ :=
  loop.stats.released + loop.stats.dropped + loop.pending.toList.length

theorem SharedMemory.announcements_of_material {before after : SharedMemory}
    (hmaterial : after.material = before.material) :
    after.announcements = before.announcements := by
  rw [announcements, announcements, announcedIndex?_of_material hmaterial]

theorem SharedMemory.announcements_of_read {memory : SharedMemory}
    (hread : memory.arena.pru0ToHost.isUnread = false) : memory.announcements = 0 := by
  rw [announcements, announcedIndex?_of_read hread]
  rfl

theorem SharedMemory.announcements_of_slot {before after : SharedMemory}
    (hslot : after.arena.pru0ToHost = before.arena.pru0ToHost) :
    after.announcements = before.announcements := by
  rw [announcements, announcements, announcedIndex?, announcedIndex?, hslot]

def SamplingLoop.endsBuffer {F : Type} [Frontend F] (loop : SamplingLoop F)
    (memory : SharedMemory) : Bool :=
  loop.handlesSwap memory && loop.current.isSome

/-- The session is not in the reset, and a loop that has not noticed yet holds no buffer. -/
structure InSession {F : Type} (memory : SharedMemory) (loop : SamplingLoop F) : Prop where
  session : memory.state ≠ .reset
  restarted : loop.state = .reset → loop.current = none ∧ loop.pending = none

/-- From one moment to another `ended` buffers were finished, and whatever was handed over is
announced as long as no announcement is taken. -/
structure Accounts {F : Type} (ended : ℕ) (memory : SharedMemory) (loop : SamplingLoop F)
    (after : SharedMemory) (next : SamplingLoop F) : Prop where
  finished : next.finished = loop.finished + ended
  announced : next.stats.released + memory.announcements =
    loop.stats.released + after.announcements

namespace Accounts

variable {F : Type} {count capacity ended more : ℕ} {memory after : SharedMemory}
variable {loop next last : SamplingLoop F} {log : PeriodLog} {delivered : List SampleBuffer}

theorem refl (memory : SharedMemory) (loop : SamplingLoop F) : Accounts 0 memory loop memory loop :=
  ⟨rfl, rfl⟩

theorem trans {final : SharedMemory} (hleft : Accounts ended memory loop after next)
    (hright : Accounts more after next final last) :
    Accounts (ended + more) memory loop final last where
  finished := by
    rw [hright.finished, hleft.finished, Nat.add_assoc]
  announced := by
    have hleft := hleft.announced
    have hright := hright.announced
    omega

/-- What touches neither buffers, counters nor announcements goes unnoticed. -/
theorem of_same (hreleased : next.stats.released = loop.stats.released)
    (hdropped : next.stats.dropped = loop.stats.dropped)
    (hpending : next.pending = loop.pending)
    (hannounced : after.announcements = memory.announcements) :
    Accounts 0 memory loop after next where
  finished := by
    rw [SamplingLoop.finished, SamplingLoop.finished, hreleased, hdropped, hpending, Nat.add_zero]
  announced := by
    rw [hreleased, hannounced]

/-! ## Finishing a buffer -/

/-- A finished buffer is either announced or waits. -/
theorem handOver {handle : ProducerHandle}
    (howner : memory.pool.owner? handle.index = some .producer) (summary : BufferMeta)
    (hpending : loop.pending = none) :
    Accounts 1 memory loop (loop.handOver memory handle summary).2
      (loop.handOver memory handle summary).1 := by
  cases hread : memory.arena.pru0ToHost.isUnread with
  | false =>
      obtain ⟨hannounced, -⟩ := SharedMemory.announcedIndex?_release howner summary hread
      have hbefore := SharedMemory.announcements_of_read hread
      have hafter : (memory.release handle summary).2.announcements = 1 := by
        rw [SharedMemory.announcements, hannounced]
        rfl
      have hreleased := SharedMemory.release_of_read howner summary hread
      rw [hreleased] at hafter
      simp only [SamplingLoop.handOver, hreleased]
      constructor
      · simp only [SamplingLoop.finished, hpending, Option.toList_none, List.length_nil]
        omega
      · rw [hbefore, hafter]
  | true =>
      have hreleased := SharedMemory.release_of_unread howner summary hread
      simp only [SamplingLoop.handOver, hreleased]
      constructor
      · simp [SamplingLoop.finished, hpending]
      · exact congrArg (loop.stats.released + ·) (SharedMemory.announcements_of_slot rfl)

/-- A waiting buffer that is offered again is still finished once. -/
theorem retryPending (h : Recording count capacity memory loop log delivered) :
    Accounts 0 memory loop (loop.retryPending memory).2 (loop.retryPending memory).1 := by
  rw [SamplingLoop.retryPending]
  split
  · rename_i handle summary hpending
    have hoffered : Accounts 1 memory { loop with pending := none } _ _ :=
      handOver (h.owner?_pending hpending) summary rfl
    constructor
    · rw [hoffered.finished]
      simp [SamplingLoop.finished, hpending]
    · exact hoffered.announced
  · exact .refl memory loop

theorem announcements_acquire (memory : SharedMemory) :
    memory.acquire.2.announcements = memory.announcements := by
  apply SharedMemory.announcements_of_slot
  simp only [SharedMemory.acquire]
  split
  · rfl
  · split <;> rfl

/-- A swap finishes the buffer being filled, whatever becomes of it. -/
theorem handleSwap (h : Recording count capacity memory loop log delivered)
    (timestamp : UInt64) :
    Accounts loop.current.isSome.toNat memory loop (loop.handleSwap memory timestamp).2
      (loop.handleSwap memory timestamp).1 := by
  rw [SamplingLoop.handleSwap]
  split
  · rename_i handle waiting hcurrent hpending
    refine ⟨?_, ?_⟩
    · simp only [SamplingLoop.reuseBuffer, SamplingLoop.openPeriod, SamplingLoop.finished, hcurrent,
        hpending, Option.toList_some, List.length_singleton, Option.isSome_some, Bool.toNat_true]
      omega
    · exact congrArg (loop.stats.released + ·) (SharedMemory.announcements_of_slot rfl)
  · rename_i hnot
    have hcaptured : (memory.acquire.2.swapEdges (memory.acquire.1.map (·.index))).announcements =
        memory.announcements :=
      (SharedMemory.announcements_of_slot rfl).trans (announcements_acquire memory)
    simp only [SamplingLoop.exchangeBuffer]
    cases hcurrent : loop.current with
    | none => exact .of_same rfl rfl rfl hcaptured
    | some finished =>
        have hpending : loop.pending = none := by
          cases hpending : loop.pending with
          | none => rfl
          | some waiting => exact absurd hpending (hnot finished waiting hcurrent)
        have hacquired := (h.endPeriod hcurrent hpending timestamp).acquire rfl rfl rfl
        have hwaits := hacquired.of_material (SharedMemory.material_of_ledger
          (memory.acquire.2.ledger_swapEdges (memory.acquire.1.map (·.index))))
        have hopened : Accounts 0 memory loop
            (memory.acquire.2.swapEdges (memory.acquire.1.map (·.index)))
            { loop.openPeriod timestamp with current := memory.acquire.1 } :=
          .of_same rfl rfl rfl hcaptured
        exact hopened.trans (handOver (hwaits.owner?_pending rfl) loop.summary hpending)

/-! ## A step of the loop -/

/-- A pong does not pass for an announcement. -/
theorem announcements_serveCommands (memory : SharedMemory) :
    (SamplingLoop.serveCommands memory).announcements = memory.announcements := by
  have hreceived := SharedMemory.announcements_of_material
    (SharedMemory.material_of_ledger memory.ledger_samplingReceive)
  rw [SamplingLoop.serveCommands]
  split <;> rename_i heq <;> rw [heq] at hreceived
  · rename_i message received
    split
    · rw [← hreceived]
      cases hread : received.arena.pru0ToHost.isUnread with
      | false =>
          have hslot :
              (received.samplingSend .pong message.first message.second).2.arena.pru0ToHost =
                Channel.filled .pru0 received.arena.pru0ToHost .pong message.first
                  message.second := by
            simp only [SharedMemory.samplingSend, Channel.send_of_read hread]
          rw [SharedMemory.announcements_of_read hread, SharedMemory.announcements,
            SharedMemory.announcedIndex?_other (by decide) (by decide) hslot]
          rfl
      | true =>
          apply SharedMemory.announcements_of_slot
          simp only [SharedMemory.samplingSend, Channel.send_of_unread hread]
    · rw [← hreceived]
      exact SharedMemory.announcements_of_slot rfl
  · exact hreceived

theorem pending_maintainCache (loop : SamplingLoop F) (mode : Mode) (reader : ℕ) :
    (loop.maintainCache mode reader).pending = loop.pending := by
  rw [SamplingLoop.maintainCache]
  split <;> rfl

theorem pollSwap (h : Recording count capacity memory loop log delivered) :
    Accounts (memory.swapPending && loop.current.isSome).toNat memory loop
      (loop.pollSwap memory).2.2 (loop.pollSwap memory).2.1 := by
  have hmaterial := SharedMemory.material_of_ledger memory.ledger_takeSwapTrigger
  have htaken : Accounts 0 memory loop memory.takeSwapTrigger.2 loop :=
    .of_same rfl rfl rfl (SharedMemory.announcements_of_material hmaterial)
  cases hpending : memory.swapPending with
  | false =>
      rw [loop.pollSwap_of_low hpending]
      exact htaken
  | true =>
      have hswapped := htaken.trans
        (handleSwap (h.of_material hmaterial) memory.arena.bufferTimestamp)
      rw [Nat.zero_add] at hswapped
      rw [SamplingLoop.pollSwap, SamplingLoop.takeSwapTrigger_of_pending hpending, Bool.true_and]
      exact hswapped

variable [Frontend F]

theorem handleSample (memory : SharedMemory) (loop : SamplingLoop F) :
    Accounts 0 memory loop (loop.handleSample memory).2 (loop.handleSample memory).1 := by
  have hstats : (loop.sampleOnce memory.mode).2.stats = loop.stats := by
    cases memory.mode <;> rfl
  refine .of_same ?_ ?_ (loop.handles_sampleOnce memory.mode).2 ?_
  · rw [SamplingLoop.handleSample, hstats]
  · rw [SamplingLoop.handleSample, hstats]
  · rw [loop.memory_handleSample memory]
    split
    · exact SharedMemory.announcements_of_slot rfl
    · rfl

theorem pollSample (hlow : memory.swapPending = false) :
    Accounts 0 memory loop (loop.pollSample memory).2.2 (loop.pollSample memory).2.1 := by
  have htaken : Accounts 0 memory loop memory.takeSampleTrigger.2 loop :=
    .of_same rfl rfl rfl (SharedMemory.announcements_of_slot rfl)
  rw [SamplingLoop.pollSample]
  split
  · rename_i after heq
    have hstill : after.swapPending = false := by
      have hafter : memory.takeSampleTrigger.2 = after := congrArg Prod.snd heq
      rw [← hafter]
      exact hlow
    rw [heq] at htaken
    rw [loop.pollSwap_of_low hstill]
    have hagain : Accounts 0 after loop after.takeSwapTrigger.2 loop :=
      .of_same rfl rfl rfl (SharedMemory.announcements_of_slot rfl)
    exact (htaken.trans hagain).trans (handleSample _ _)
  · rename_i after heq
    rw [heq] at htaken
    exact htaken

theorem work (h : Recording count capacity memory loop log delivered) :
    Accounts (memory.swapPending && loop.current.isSome).toNat memory loop (loop.work memory).2
      (loop.work memory).1 := by
  have hcurrent : (loop.retryPending memory).1.current = loop.current := by
    rw [SamplingLoop.retryPending]
    split
    · rw [SamplingLoop.handOver]
      split <;> rfl
    · rfl
  have hswapped := (retryPending h).trans (pollSwap h.retryPending)
  rw [SamplingLoop.swapPending_retryPending, hcurrent, Nat.zero_add] at hswapped
  have hsampled := hswapped.trans
    (pollSample (SamplingLoop.swapPending_pollSwap (loop.retryPending memory).1
      (loop.retryPending memory).2))
  rw [Nat.add_zero] at hsampled
  unfold SamplingLoop.work
  dsimp only
  split
  · exact hsampled
  · exact hsampled.trans (.of_same (by rw [SamplingLoop.stats_maintainCache])
      (by rw [SamplingLoop.stats_maintainCache]) (pending_maintainCache _ _ _)
      (announcements_serveCommands _))

omit [Frontend F] in
theorem stepAwaitStart (memory : SharedMemory) (loop : SamplingLoop F) :
    Accounts 0 memory loop (loop.stepAwaitStart memory).2.2 (loop.stepAwaitStart memory).2.1 := by
  have hserved : (SamplingLoop.serveCommands
      memory.takeSwapTrigger.2.takeSampleTrigger.2).announcements = memory.announcements :=
    (announcements_serveCommands _).trans (SharedMemory.announcements_of_slot rfl)
  simp only [SamplingLoop.stepAwaitStart]
  split
  · exact .of_same rfl rfl rfl hserved
  · exact .of_same rfl rfl rfl hserved
  · exact .of_same rfl rfl rfl hserved
  · exact .of_same (by rw [SamplingLoop.stats_maintainCache])
      (by rw [SamplingLoop.stats_maintainCache]) (pending_maintainCache _ _ _) hserved
  · exact .of_same (by rw [SamplingLoop.stats_maintainCache])
      (by rw [SamplingLoop.stats_maintainCache]) (pending_maintainCache _ _ _) hserved

/-- A loop that leaves the reset has no buffer to drop. -/
theorem stepReset (h : InSession memory loop) (hreset : loop.state = .reset) :
    Accounts 0 memory loop (loop.stepReset memory).2.2 (loop.stepReset memory).2.1 := by
  obtain ⟨hcurrent, hpending⟩ := h.restarted hreset
  have hfreed : loop.dropBuffers memory = memory := by
    simp [SamplingLoop.dropBuffers, hcurrent, hpending]
  rw [SamplingLoop.stepReset_of_ne loop h.session, hfreed]
  exact .of_same rfl rfl hpending.symm rfl

theorem dispatch (h : Recording count capacity memory loop log delivered)
    (hsession : InSession memory loop) :
    Accounts (loop.endsBuffer memory).toNat memory loop (loop.dispatch memory).2.2
      (loop.dispatch memory).2.1 := by
  rw [SamplingLoop.endsBuffer, SamplingLoop.handlesSwap_eq, SamplingLoop.dispatch]
  cases hloop : loop.state with
  | reset => exact stepReset hsession hloop
  | awaitStart => exact stepAwaitStart memory loop
  | running =>
      rw [SamplingLoop.stepRunning]
      cases memory.state with
      | running => exact work h
      | idle | armed | reset | fault => exact .refl memory loop
  | fault => exact .refl memory loop

/-- A step of the loop finishes a buffer if it handles a swap while one is being filled. -/
theorem step (h : Recording count capacity memory loop log delivered)
    (hsession : InSession memory loop) :
    Accounts (loop.endsBuffer memory).toNat memory loop (loop.step memory).2
      (loop.step memory).1 := by
  have hdispatch := dispatch h hsession
  rw [SamplingLoop.step]
  split
  rename_i next moved after heq
  rw [heq] at hdispatch
  split
  · exact hdispatch
  · have hlogged : Accounts 0 after moved
        (after.log .debug ("pru0 " ++ loop.state.name ++ " -> " ++ next.name))
        { moved with state := next } :=
      .of_same rfl rfl rfl (SharedMemory.announcements_of_slot rfl)
    exact hdispatch.trans hlogged

/-! ## A service of the pump -/

omit [Frontend F] in
/-- A service shows the sink the buffer that was announced, if there is one. -/
theorem service (h : Recording count capacity memory loop log delivered) (pump : MessagePump) :
    (pump.service memory).consumed.toList.length = memory.announcements ∧
      (pump.service memory).memory.announcements = 0 := by
  have hmaterial := (pump.onStatuses_cases memory.pollStatus.2 memory.pollStatus.1).1.trans
    (SharedMemory.material_of_ledger memory.ledger_pollStatus)
  have hhandled := h.of_material hmaterial
  rw [← SharedMemory.announcements_of_material hmaterial]
  unfold MessagePump.service
  dsimp only
  generalize pump.onStatuses memory.pollStatus.2 memory.pollStatus.1 = handled at hhandled ⊢
  have hreceived := hhandled.pumpReceive
  have hindex := handled.2.announcedIndex?_eq_pumpReceive
  have hread : handled.2.pumpReceive.2.arena.pru0ToHost.isUnread = false :=
    Channel.isUnread_receive .host .pru0 handled.2.arena.pru0ToHost handled.2.arena.hostStatus
  split <;> rename_i heq <;> rw [heq] at hreceived hindex hread
  · refine ⟨?_, SharedMemory.announcements_of_read hread⟩
    rw [SharedMemory.announcements, hindex]
    rfl
  · rename_i message after
    have hslot := handled.1.slot_onMessage after message
    refine ⟨?_, SharedMemory.announcements_of_read (hslot ▸ hread)⟩
    rw [SharedMemory.announcements, hindex]
    have hpool : after.pool = handled.2.pool := congrArg (·.2.pool) heq.symm
    rw [MessagePump.onMessage]
    cases htype : message.type with
    | bufferFilled =>
        have hfilled : after.pool.owner? message.first = some .filled := by
          rw [hpool]
          exact hhandled.announced_filled message.first (by simp [hindex, htype])
        simpa [htype] using (KeepingUp.length_onBuffer hreceived handled.1 hfilled).2
    | none | ping | pong | syncRequest | syncReply => simp [htype]

end Accounts

namespace InSession

variable {F : Type} {memory : SharedMemory} {loop : SamplingLoop F}

/-- Outside the reset a step leaves the loop outside as well. -/
theorem step [Frontend F] (h : InSession memory loop) :
    InSession (loop.step memory).2 (loop.step memory).1 := by
  obtain ⟨hview, hcontrol⟩ := loop.step_cases memory
  constructor
  · obtain hcontrol | hcontrol := hcontrol
    · rw [SharedMemory.state_of_control hcontrol]
      exact h.session
    · rw [SharedMemory.state_of_control hcontrol]
      exact h.session
  · intro hreset
    have hstepped := @Handshake.loop_stepped_ne_reset (loop.handshake memory) h.session
    exact absurd ((congrArg Handshake.loop hview).symm.trans hreset) hstepped

end InSession

namespace Bench

variable {F T : Type} [Frontend F] [Timer T]

def staysInSession : BenchEvent F T → Bool
  | .requestReset | .completeReset | .setState .reset => false
  | _ => true

/-- Whether a swap is handled that finds a buffer being filled. -/
def Transition.endsBuffer (transition : Transition F T) : Bool :=
  transition.handlesSwap && transition.before.sampling.current.isSome

variable {count capacity : ℕ} {setup : BenchSetup F T} {prelude : List (BenchEvent F T)}

theorem inSession_step {bench : Bench F T} (h : InSession bench.memory bench.sampling)
    {event : BenchEvent F T} (hstays : staysInSession event = true) :
    InSession (bench.step event).memory (bench.step event).sampling := by
  cases event with
  | setState next =>
      refine ⟨?_, h.restarted⟩
      have hnext : next ≠ .reset := by
        rintro rfl
        cases hstays
      simp only [step, SharedMemory.state_setState]
      split
      · exact hnext
      · exact h.session
  | setMode mode => exact ⟨(bench.memory.state_setMode mode).trans_ne h.session, h.restarted⟩
  | requestReset | completeReset => cases hstays
  | step core =>
      cases core with
      | sampling => exact h.step
      | timing => exact ⟨(bench.timing.state_step bench.memory).trans_ne h.session, h.restarted⟩
  | service =>
      refine ⟨?_, h.restarted⟩
      obtain hstate | hstate := bench.pump.state_service bench.memory
      · exact hstate.trans_ne h.session
      · exact hstate.trans_ne (by decide)
  | _ => exact ⟨h.session, h.restarted⟩

/-- An event finishes at most one buffer, and what is handed over is announced until the sink sees
it. -/
theorem accounts_step {bench : Bench F T} {log : PeriodLog} {delivered : List SampleBuffer}
    (h : Recording count capacity bench.memory bench.sampling log delivered)
    (hsession : InSession bench.memory bench.sampling) {event : BenchEvent F T}
    (hstays : staysInSession event = true) :
    (bench.step event).sampling.finished =
        bench.sampling.finished + (Transition.mk bench event).endsBuffer.toNat ∧
      (bench.step event).sampling.stats.released + bench.memory.announcements =
        bench.sampling.stats.released + (Transition.mk bench event).delivered.length +
          (bench.step event).memory.announcements := by
  have hquiet : ∀ {after : SharedMemory}, after.material = bench.memory.material →
      bench.sampling.finished = bench.sampling.finished + false.toNat ∧
        bench.sampling.stats.released + bench.memory.announcements =
          bench.sampling.stats.released + ([] : List FilledBuffer).length +
            after.announcements := by
    intro after hmaterial
    exact ⟨rfl, by rw [SharedMemory.announcements_of_material hmaterial]; rfl⟩
  cases event with
  | step core =>
      cases core with
      | sampling =>
          have hstepped := Accounts.step h hsession
          exact ⟨hstepped.finished, hstepped.announced⟩
      | timing => exact hquiet (bench.timing.material_step bench.memory)
  | service =>
      obtain ⟨hconsumed, hnone⟩ := Accounts.service h bench.pump
      refine ⟨rfl, ?_⟩
      simp only [step, Transition.delivered, hconsumed, hnone, Nat.add_zero]
  | setState next => exact hquiet (bench.memory.material_setState next)
  | setMode mode => exact hquiet (bench.memory.material_setMode mode)
  | requestReset | completeReset => cases hstays
  | _ => exact hquiet rfl

/-! ## The start of a session -/

theorem inSession_fresh (hnew : BufferPool.new count capacity = .ok setup.pool)
    (hfresh : StartsFresh setup prelude) :
    InSession ((start setup).run prelude).memory ((start setup).run prelude).sampling ∧
      ((start setup).run prelude).sampling.pending = none ∧
      ((start setup).run prelude).memory.announcements = 0 := by
  have h := keepingUp_fresh hnew hfresh
  refine ⟨⟨h.session, fun hreset => ⟨h.restarted hreset, h.pending⟩⟩, h.pending, ?_⟩
  have hcomplete := h.complete
  rwa [List.length_nil, Nat.zero_add] at hcomplete

/-! ## The run of a session -/

theorem inSession_run {session : Bench F T} (h : InSession session.memory session.sampling)
    {events : List (BenchEvent F T)} (hstays : ∀ event ∈ events, staysInSession event = true) :
    InSession (session.run events).memory (session.run events).sampling := by
  induction events using List.reverseRecOn with
  | nil => exact h
  | append_singleton events event ih =>
      rw [run_append]
      exact inSession_step (ih fun earlier hmem => hstays earlier (List.mem_append_left _ hmem))
        (hstays event (List.mem_append_right _ List.mem_cons_self))

/-- The accounts of the events of a session add up. -/
theorem accounts_run {session : Bench F T}
    (hrecording : ∀ events, ∃ log delivered,
      Recording count capacity (session.run events).memory (session.run events).sampling log
        delivered)
    (hsession : InSession session.memory session.sampling) {events : List (BenchEvent F T)}
    (hstays : ∀ event ∈ events, staysInSession event = true) :
    (session.run events).sampling.finished =
        session.sampling.finished + (session.trace events).countP (·.endsBuffer) ∧
      (session.run events).sampling.stats.released + session.memory.announcements =
        session.sampling.stats.released + ((session.trace events).flatMap (·.delivered)).length +
          (session.run events).memory.announcements := by
  induction events using List.reverseRecOn with
  | nil => exact ⟨rfl, rfl⟩
  | append_singleton events event ih =>
      have hearlier : ∀ earlier ∈ events, staysInSession earlier = true :=
        fun earlier hmem => hstays earlier (List.mem_append_left _ hmem)
      obtain ⟨hfinished, hannounced⟩ := ih hearlier
      obtain ⟨log, delivered, h⟩ := hrecording events
      obtain ⟨hfinished', hannounced'⟩ := accounts_step h (inSession_run hsession hearlier)
        (hstays event (List.mem_append_right _ List.mem_cons_self))
      have hcount : (session.trace (events ++ [event])).countP (·.endsBuffer) =
          (session.trace events).countP (·.endsBuffer) +
            (Transition.mk (session.run events) event).endsBuffer.toNat := by
        rw [trace_concat, List.countP_append, List.countP_singleton]
        cases (Transition.mk (session.run events) event).endsBuffer <;> rfl
      have hdelivered : ((session.trace (events ++ [event])).flatMap (·.delivered)).length =
          ((session.trace events).flatMap (·.delivered)).length +
            (Transition.mk (session.run events) event).delivered.length := by
        rw [trace_concat, List.flatMap_append, List.length_append, List.flatMap_singleton]
      have hrun : session.run (events ++ [event]) = (session.run events).step event :=
        session.run_append events [event]
      rw [hrun, hcount, hdelivered]
      constructor
      · rw [hfinished', hfinished, Nat.add_assoc]
      · omega

/-- Within a session every buffer that a swap finished was handed over, was used again or waits, and
every buffer that was handed over was shown to the sink or is announced and not yet read.  The
counters of the loop start at zero, unless the session follows a reset that was finished on flags
from before it was requested. -/
theorem buffers_accounted (hnew : BufferPool.new count capacity = .ok setup.pool)
    (hfresh : StartsFresh setup prelude) {events : List (BenchEvent F T)}
    (hstays : ∀ event ∈ events, staysInSession event = true) :
    let session := (start setup).run prelude
    let bench := session.run events
    session.sampling.stats.released + session.sampling.stats.dropped +
        (session.trace events).countP (·.endsBuffer) =
      bench.sampling.stats.released + bench.sampling.stats.dropped +
        bench.sampling.pending.toList.length ∧
    bench.sampling.stats.released =
      session.sampling.stats.released + ((session.trace events).flatMap (·.delivered)).length +
        bench.memory.announcements ∧
    (FinishesFresh ((start setup).trace prelude) → session.sampling.stats = {}) := by
  intro session bench
  obtain ⟨hsession, hpending, hnone⟩ := inSession_fresh hnew hfresh
  have hrecording : ∀ events, ∃ log delivered,
      Recording count capacity (session.run events).memory (session.run events).sampling log
        delivered := by
    intro events
    have h := recording_run hnew (prelude ++ events)
    rw [run_append] at h
    exact ⟨_, _, h⟩
  obtain ⟨hfinished, hannounced⟩ := accounts_run hrecording hsession hstays
  refine ⟨?_, ?_, fun hfinishes => stats_fresh hfresh hfinishes⟩
  · rw [SamplingLoop.finished, SamplingLoop.finished, hpending] at hfinished
    simpa using hfinished.symm
  · rwa [hnone, Nat.add_zero] at hannounced

/-- Four swaps over two buffers after a reset, with a ping whose answer is not read for long.  The
first buffer has to wait and the second one is used again for the third period; in the end the first
one is announced and the second one waits. -/
theorem buffers_accounted_waiting :
    let setup := BenchSetup.simulated 2 2
    let prelude := [.requestReset, .step .sampling, .step .timing, .completeReset]
    let events := [.setMode .disabled, .setState .armed, .setState .running, .step .sampling,
      .step .sampling, .ping 1 2, .step .sampling, .raiseBufferSwap 1000, .step .sampling,
      .raiseBufferSwap 2000, .step .sampling, .raiseSample, .step .sampling,
      .raiseBufferSwap 3000, .step .sampling, .service, .raiseBufferSwap 4000, .step .sampling]
    let session := (start setup).run prelude
    let bench := session.run events
    BufferPool.new 2 2 = .ok setup.pool ∧ StartsFresh setup prelude ∧
    (∀ event ∈ events, staysInSession event = true) ∧
    bench.sampling.stats.released = 1 ∧ bench.sampling.stats.dropped = 1 ∧
    bench.sampling.pending.isSome = true ∧ bench.memory.announcements = 1 ∧
    (session.sampling.stats.released + session.sampling.stats.dropped +
        (session.trace events).countP (·.endsBuffer) =
      bench.sampling.stats.released + bench.sampling.stats.dropped +
        bench.sampling.pending.toList.length ∧
    bench.sampling.stats.released =
      session.sampling.stats.released + ((session.trace events).flatMap (·.delivered)).length +
        bench.memory.announcements ∧
    (FinishesFresh ((start setup).trace prelude) → session.sampling.stats = {})) := by
  refine ⟨rfl, ?fresh, ?stays, by decide +kernel, by decide +kernel, by decide +kernel,
    by decide +kernel, @buffers_accounted _ _ _ _ 2 2 _ _ rfl ?fresh _ ?stays⟩
  case fresh =>
    exact .inr ⟨[.requestReset, .step .sampling, .step .timing], rfl, by decide +kernel⟩
  case stays => decide +kernel

end Bench

end HarvestTestbed
