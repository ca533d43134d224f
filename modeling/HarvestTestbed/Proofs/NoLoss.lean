import HarvestTestbed.Proofs.EndToEnd
import HarvestTestbed.Proofs.KeepingUp
import HarvestTestbed.Proofs.ResetHandshake

/-!
# Nothing is lost while the host keeps up

A session starts with a core that has just been started, or with a reset that is finished.  If the
pump runs between any two periods, no ping is sent and every period fits a buffer, then every period
is recorded and shown to the sink.  The number of samples of a period is that of the samples that
the sampling loop handles in it.  The triggers raised in it are another number: a sample trigger
that waits together with a swap is handled after the swap, and so belongs to the next period.
-/

namespace HarvestTestbed

theorem BufferPool.countOwner_eq_zero {pool : BufferPool} (hsize : pool.size ≤ UInt32.size)
    {owner : BufferOwner} (hnone : ∀ index, pool.owner? index ≠ some owner) :
    pool.countOwner owner = 0 := by
  rw [← length_indicesOf hsize, indicesOf, List.length_eq_zero_iff, List.filter_eq_nil_iff]
  intro index _
  simp [hnone index]

/-- Nothing is recorded yet when every buffer is free and no message waits. -/
theorem KeepingUp.fresh {F : Type} {count capacity : ℕ} {memory : SharedMemory}
    {loop : SamplingLoop F} {log : PeriodLog} {delivered : List SampleBuffer}
    (h : Recording count capacity memory loop log delivered)
    (hcurrent : loop.current = none) (hpending : loop.pending = none)
    (hsession : memory.state ≠ .reset)
    (hfree : ∀ index owner, memory.pool.owner? index = some owner → owner = .freeRing)
    (hread : memory.arena.pru0ToHost.isUnread = false)
    (hcommands : memory.samplingMail.commands.isUnread = false)
    (hreported : memory.samplingMail.reported.code ≠ .bufferPoolExhausted) :
    KeepingUp count capacity memory loop {} [] := by
  have hnone := SharedMemory.announcedIndex?_of_read hread
  have hother : ∀ owner, owner ≠ .freeRing → memory.pool.countOwner owner = 0 :=
    fun owner hne => BufferPool.countOwner_eq_zero h.ownership.size_le_word
      fun index howner => hne (hfree index owner howner)
  have hqueued := h.ownership.length_add
  rw [hother .filled (by decide), hother .detached (by decide)] at hqueued
  simp only [SamplingLoop.handles, hcurrent, hpending, Option.map_none, Option.toList_none,
    List.append_nil, List.length_nil, Nat.add_zero] at hqueued
  constructor
  case recording =>
    exact
      { ownership := h.ownership
        capacity_eq := h.capacity_eq
        announced_filled := h.announced_filled
        filling := by simp [hcurrent]
        queue := by
          rw [SharedMemory.announced_of_read hread, SamplingLoop.waiting, hpending]
          exact .nil }
  case session => exact hsession
  case restarted => exact fun _ => hcurrent
  case pending => exact hpending
  case filling => exact fun hsome => absurd rfl hsome
  case commands => exact hcommands
  case reported => exact hreported
  case announces => simp [hread]
  case accounted => simpa [hcurrent, hnone] using hqueued
  case complete => simp [hnone]

/-- A loop that holds that it acknowledged a reset has counted nothing since. -/
theorem SamplingLoop.stats_step_of_acked {F : Type} [Frontend F] {loop : SamplingLoop F}
    {memory : SharedMemory} (hlatched : loop.resetAcked = true → loop.state = .reset)
    (hstats : loop.resetAcked = true → loop.stats = {})
    (hacked : (loop.step memory).1.resetAcked = true) : (loop.step memory).1.stats = {} := by
  have hview : (loop.step memory).1.resetAcked = (loop.handshake memory).stepped.latched :=
    congrArg Handshake.latched (loop.step_cases memory).1
  rw [hview, Handshake.stepped, handshake] at hacked
  cases hloop : loop.state with
  | reset =>
      have hdispatch : (loop.step memory).1.stats = (loop.stepReset memory).2.1.stats := by
        simp only [step, dispatch, hloop]
        split <;> rfl
      have hsession : memory.state = .reset := by
        by_contra hsession
        simp [hloop, hsession] at hacked
      have hfreed := SharedMemory.state_of_control (loop.control_dropBuffers memory)
      rw [hdispatch, stepReset, if_pos (hfreed.trans hsession), acknowledge]
      split
      · rename_i hbefore
        exact hstats hbefore
      · rfl
  | awaitStart | running | fault =>
      have hbefore := hlatched (by simpa [hloop] using hacked)
      rw [hloop] at hbefore
      cases hbefore

namespace PeriodLog

/-- Samples end no period. -/
theorem ended_foldl {events : List LoopEvent} (hnone : ∀ timestamp, .swap timestamp ∉ events)
    (log : PeriodLog) : (events.foldl note log).ended = log.ended := by
  induction events generalizing log with
  | nil => rfl
  | cons event events ih =>
      rw [List.foldl_cons, ih fun timestamp hmem => hnone timestamp (List.mem_cons_of_mem _ hmem)]
      cases event with
      | swap timestamp => exact absurd List.mem_cons_self (hnone timestamp)
      | sample record => rfl

theorem lasting_foldl_of_lasting (events : List LoopEvent) {log : PeriodLog}
    (hlasting : log.lasting ≠ none) : (events.foldl note log).lasting ≠ none := by
  induction events generalizing log with
  | nil => exact hlasting
  | cons event events ih =>
      refine ih ?_
      cases event with
      | swap timestamp => exact Option.some_ne_none _
      | sample record => simpa [note] using hlasting

/-- From the first swap on there is a period that lasts. -/
theorem lasting_foldl {events : List LoopEvent} {timestamp : UInt64}
    (hmem : .swap timestamp ∈ events) (log : PeriodLog) :
    (events.foldl note log).lasting ≠ none := by
  obtain ⟨before, after, rfl⟩ := List.append_of_mem hmem
  rw [List.foldl_append, List.foldl_cons]
  exact lasting_foldl_of_lasting after (Option.some_ne_none _)

end PeriodLog

namespace Bench

variable {F T : Type} [Frontend F] [Timer T]

/-! ## Sessions -/

/-- A session starts with the cores or with a reset that is finished. -/
def StartsFresh (setup : BenchSetup F T) (prelude : List (BenchEvent F T)) : Prop :=
  prelude = [] ∨ ∃ before, prelude = before ++ [.completeReset] ∧
    ((start setup).run before).memory.completeReset.1 = .ok ()

def staysQuiet : BenchEvent F T → Bool
  | .ping _ _ | .requestReset | .completeReset | .setState .reset => false
  | _ => true

def Transition.isService (transition : Transition F T) : Bool :=
  match transition.event with
  | .service => true
  | _ => false

def Transition.handlesSwap (transition : Transition F T) : Bool :=
  match transition.event with
  | .step .sampling => transition.before.sampling.handlesSwap transition.before.memory
  | _ => false

/-- Whether a swap was handled since the last service. -/
def behind (transitions : List (Transition F T)) : Bool :=
  transitions.foldl
    (fun behind transition => !transition.isService && (behind || transition.handlesSwap)) false

/-- Between any two swaps that are handled the pump is serviced. -/
def KeepsUp (transitions : List (Transition F T)) : Prop :=
  ∀ index, (hindex : index < transitions.length) → transitions[index].handlesSwap = true →
    behind (transitions.take index) = false

instance (transitions : List (Transition F T)) : Decidable (KeepsUp transitions) :=
  inferInstanceAs (Decidable (∀ index, (_ : index < transitions.length) → _))

/-- A session in which the host keeps up: without pings and resets, with a service between any two
swaps, and with periods that fit a buffer. -/
structure KeptUp (capacity : ℕ) (session : Bench F T) (events : List (BenchEvent F T)) : Prop where
  quiet : ∀ event ∈ events, staysQuiet event = true
  serviced : KeepsUp (session.trace events)
  fits : (PeriodLog.ofEvents ((session.trace events).flatMap (·.handled))).Fits capacity

omit [Timer T] in
theorem behind_concat (transitions : List (Transition F T)) (transition : Transition F T) :
    behind (transitions ++ [transition]) =
      (!transition.isService && (behind transitions || transition.handlesSwap)) :=
  List.foldl_concat _ _ _ _

omit [Timer T] in
theorem keepsUp_concat {transitions : List (Transition F T)} {transition : Transition F T}
    (hkeeps : KeepsUp (transitions ++ [transition])) :
    KeepsUp transitions ∧ (transition.handlesSwap = true → behind transitions = false) := by
  constructor
  · intro index hindex hswap
    have hlast := hkeeps index (by simp; omega)
    rw [List.getElem_append_left hindex, List.take_append_of_le_length hindex.le] at hlast
    exact hlast hswap
  · intro hswap
    have hlast := hkeeps transitions.length (by simp)
    rw [List.getElem_concat_length rfl, List.take_left] at hlast
    exact hlast hswap

theorem trace_concat (bench : Bench F T) (events : List (BenchEvent F T))
    (event : BenchEvent F T) :
    bench.trace (events ++ [event]) = bench.trace events ++ [⟨bench.run events, event⟩] :=
  bench.trace_append events [event]

omit [Timer T] in
theorem ofEvents_handled_concat (transitions : List (Transition F T))
    (transition : Transition F T) :
    PeriodLog.ofEvents ((transitions ++ [transition]).flatMap (·.handled)) =
      transition.handled.foldl .note (PeriodLog.ofEvents (transitions.flatMap (·.handled))) := by
  rw [List.flatMap_append, List.flatMap_singleton, PeriodLog.ofEvents, List.foldl_append]
  rfl

theorem KeptUp.of_concat {capacity : ℕ} {session : Bench F T} {events : List (BenchEvent F T)}
    {event : BenchEvent F T} (h : KeptUp capacity session (events ++ [event])) :
    KeptUp capacity session events where
  quiet earlier hearlier := h.quiet earlier (List.mem_append_left _ hearlier)
  serviced := by
    have hserviced := h.serviced
    rw [trace_concat] at hserviced
    exact (keepsUp_concat hserviced).1
  fits := by
    have hfits := h.fits
    rw [trace_concat, ofEvents_handled_concat] at hfits
    exact hfits.of_foldl

/-! ## The start of a session -/

variable {count capacity : ℕ} {setup : BenchSetup F T} {prelude : List (BenchEvent F T)}

omit [Frontend F] [Timer T] in
theorem keepingUp_start (hnew : BufferPool.new count capacity = .ok setup.pool) :
    KeepingUp count capacity (start setup).memory (start setup).sampling {} [] := by
  obtain ⟨pool, hattach, heq⟩ := SharedMemory.split_of_ok (SharedMemory.split_of_new hnew)
  have hentries := BufferPool.entries_of_attach hattach
  refine .fresh (recording_start hnew) rfl rfl ?_ ?_ ?_ ?_ ?_ <;> rw [start, heq]
  · exact (by decide : SessionState.idle ≠ .reset)
  · intro index owner howner
    have hentry := BufferPool.entry?_of_new hnew index
    simp only [BufferPool.owner?, BufferPool.entry?, hentries] at howner hentry
    rw [hentry] at howner
    split at howner
    · exact (Option.some.inj howner).symm
    · cases howner
  · rfl
  · rfl
  · exact (by decide : StatusCode.memoryCorruption ≠ .bufferPoolExhausted)

omit [Frontend F] [Timer T] in
theorem keepingUp_completeReset {bench : Bench F T} {log : PeriodLog}
    {delivered : List SampleBuffer}
    (h : Recording count capacity bench.memory bench.sampling log delivered)
    (hok : bench.memory.completeReset.1 = .ok ()) :
    KeepingUp count capacity bench.memory.completeReset.2 bench.sampling {} [] := by
  have hready := (SharedMemory.completeReset_eq_ok_iff _).mp hok
  obtain ⟨pool, hreclaim, heq⟩ := SharedMemory.completeReset_of_ready hready
  obtain ⟨hhandles, -⟩ := h.ownership.eq_nil_of_held hready.2.2
  rw [SamplingLoop.handles, List.append_eq_nil_iff, Option.toList_eq_nil_iff,
    Option.toList_eq_nil_iff, Option.map_eq_none_iff] at hhandles
  have hmail : (bench.memory.afterReset pool).samplingMail =
      { commands := bench.memory.arena.hostToPru0.clear
        reported := bench.memory.arena.pru0Status.clear.event .pru0 } := by
    rw [SharedMemory.afterReset, SharedMemory.samplingMail_setState]
    rfl
  refine .fresh h.completeReset hhandles.1 hhandles.2 ?_ ?_ ?_ ?_ ?_ <;> rw [heq]
  · rw [SharedMemory.state_eq_control, SharedMemory.control_afterReset hready.1,
      SessionState.ofWord_toWord]
    decide
  · intro index owner howner
    rw [SharedMemory.pool_afterReset, BufferPool.owner?_of_reclaim hreclaim] at howner
    split at howner
    · exact (Option.some.inj howner).symm
    · cases howner
  · rw [SharedMemory.pru0ToHost_afterReset]
    rfl
  · rw [hmail]
    rfl
  · rw [hmail]
    exact (by decide : StatusCode.memoryCorruption ≠ .bufferPoolExhausted)

theorem keepingUp_fresh (hnew : BufferPool.new count capacity = .ok setup.pool)
    (hfresh : StartsFresh setup prelude) :
    KeepingUp count capacity ((start setup).run prelude).memory
      ((start setup).run prelude).sampling {} [] := by
  obtain rfl | ⟨before, rfl, hok⟩ := hfresh
  · exact keepingUp_start hnew
  · rw [run_append]
    exact keepingUp_completeReset (recording_run hnew before) hok

theorem stats_run_of_acked (setup : BenchSetup F T) (events : List (BenchEvent F T))
    (hacked : ((start setup).run events).sampling.resetAcked = true) :
    ((start setup).run events).sampling.stats = {} := by
  induction events using List.reverseRecOn with
  | nil => rfl
  | append_singleton events event ih =>
      have hlatched := (agrees_run setup events .sampling).latched_loop
      rw [run_append] at hacked ⊢
      cases event with
      | step core =>
          cases core with
          | sampling => exact SamplingLoop.stats_step_of_acked hlatched ih hacked
          | timing => exact ih hacked
      | _ => exact ih hacked

/-- A session starts without a loss, unless a reset was finished on a flag from before it was
requested. -/
theorem stats_fresh (hfresh : StartsFresh setup prelude)
    (hfinishes : FinishesFresh ((start setup).trace prelude)) :
    ((start setup).run prelude).sampling.stats = {} := by
  obtain rfl | ⟨before, rfl, hok⟩ := hfresh
  · rfl
  · have hready := (SharedMemory.completeReset_eq_ok_iff _).mp hok
    have hagrees := agrees_run setup before .sampling
    have hsession : (((start setup).run before).handshake .sampling).session = .reset :=
      (session_handshake _ _).trans hready.1
    have hraised := (resetAcknowledged_iff _).mp hready.2.1 .sampling
    rw [← flag_handshake] at hraised
    have hhistory := hfinishes _ ⟨(start setup).run before, .completeReset⟩ []
      (trace_concat _ _ _) (congrArg Except.isOk hok) .sampling
    have hacked := (hagrees.acknowledged_of_flag hsession hraised hhistory).1
    rw [run_append]
    exact stats_run_of_acked setup before (hagrees.acknowledged_latched hsession hacked)

/-! ## The run of a session -/

/-- An event of a session that is kept up with loses nothing, if a swap is handled only after the
last announcement was read. -/
theorem keepingUp_step {bench : Bench F T} {log : PeriodLog} {delivered : List SampleBuffer}
    (h : KeepingUp count capacity bench.memory bench.sampling log delivered) (hcount : 2 ≤ count)
    {event : BenchEvent F T} (hquiet : staysQuiet event = true)
    (hread : (Transition.mk bench event).handlesSwap = true →
      bench.memory.arena.pru0ToHost.isUnread = false)
    (hfits : ((Transition.mk bench event).handled.foldl .note log).Fits capacity) :
    KeepingUp count capacity (bench.step event).memory (bench.step event).sampling
        ((Transition.mk bench event).handled.foldl .note log)
        (delivered ++ (Transition.mk bench event).delivered.map (·.buffer)) ∧
      (bench.step event).sampling.stats.dropped = bench.sampling.stats.dropped ∧
      (((Transition.mk bench event).handled.foldl PeriodLog.note log).lasting ≠ none →
        (bench.step event).sampling.stats.discarded = bench.sampling.stats.discarded) := by
  have hkept : KeepingUp count capacity bench.memory bench.sampling log (delivered ++ []) := by
    rwa [List.append_nil]
  cases event with
  | step core =>
      cases core with
      | sampling => exact hkept.step hcount hread hfits
      | timing =>
          have hstepped := hkept.of_material (bench.timing.material_step bench.memory)
            (bench.timing.samplingMail_step bench.memory)
            ((bench.timing.state_step bench.memory).trans_ne h.session)
          exact ⟨hstepped, rfl, fun _ => rfl⟩
  | service => exact ⟨h.service bench.pump, rfl, fun _ => rfl⟩
  | setState next =>
      refine ⟨hkept.of_material (bench.memory.material_setState next)
        (bench.memory.samplingMail_setState next) ?_, rfl, fun _ => rfl⟩
      have hnext : next ≠ .reset := by
        rintro rfl
        cases hquiet
      simp only [Bench.step, SharedMemory.state_setState]
      split
      · exact hnext
      · exact h.session
  | setMode mode =>
      have hset := hkept.of_material (bench.memory.material_setMode mode)
        (bench.memory.samplingMail_setMode mode)
        ((bench.memory.state_setMode mode).trans_ne h.session)
      exact ⟨hset, rfl, fun _ => rfl⟩
  | requestReset | completeReset | ping => cases hquiet
  | frontend | appendTrace => exact ⟨hkept.of_loop rfl rfl rfl h.restarted, rfl, fun _ => rfl⟩
  | _ => exact ⟨hkept.of_material rfl rfl h.session, rfl, fun _ => rfl⟩

omit [Timer T] in
theorem exists_swap_of_handlesSwap {transition : Transition F T}
    (hswap : transition.handlesSwap = true) :
    ∃ timestamp, LoopEvent.swap timestamp ∈ transition.handled := by
  obtain ⟨before, event⟩ := transition
  cases event with
  | step core =>
      cases core with
      | sampling =>
          obtain ⟨event, hmem, hevent⟩ := List.any_eq_true.mp hswap
          cases event with
          | swap timestamp => exact ⟨timestamp, hmem⟩
          | sample record => cases hevent
      | timing => cases hswap
  | _ => cases hswap

omit [Timer T] in
theorem ended_of_not_handlesSwap {transition : Transition F T}
    (hquiet : transition.handlesSwap = false) (log : PeriodLog) :
    (transition.handled.foldl PeriodLog.note log).ended = log.ended := by
  obtain ⟨before, event⟩ := transition
  cases event with
  | step core =>
      cases core with
      | sampling =>
          refine PeriodLog.ended_foldl (fun timestamp hmem => ?_) log
          have hevent := List.any_eq_false.mp hquiet _ hmem
          exact hevent rfl
      | timing => rfl
  | _ => rfl

/-- Everything on its way to the sink was finished by a swap that the pump is behind. -/
theorem behind_of_unread (transition : Transition F T) {log : PeriodLog}
    {delivered : List SampleBuffer}
    (hbefore : KeepingUp count capacity transition.before.memory transition.before.sampling log
      delivered)
    (hafter : KeepingUp count capacity transition.after.memory transition.after.sampling
      (transition.handled.foldl .note log) (delivered ++ transition.delivered.map (·.buffer)))
    (hunread : transition.after.memory.arena.pru0ToHost.isUnread = true) :
    transition.isService = false ∧
      (transition.before.memory.arena.pru0ToHost.isUnread = true ∨
        transition.handlesSwap = true) := by
  have hservice : transition.isService = false := by
    obtain ⟨before, event⟩ := transition
    cases event with
    | service =>
        have hread := (hbefore.length_service before.pump).2.2
        exact absurd (hread.symm.trans hunread) Bool.false_ne_true
    | _ => rfl
  refine ⟨hservice, ?_⟩
  cases hswap : transition.handlesSwap with
  | true => exact .inr rfl
  | false =>
      left
      have hnothing : transition.delivered = [] := by
        obtain ⟨before, event⟩ := transition
        cases event with
        | service => cases hservice
        | _ => rfl
      have hmissing := hafter.isUnread_iff.mp hunread
      rw [ended_of_not_handlesSwap hswap, hnothing, List.map_nil, List.append_nil] at hmissing
      exact hbefore.isUnread_iff.mpr hmissing

/-- What a run holds before its last event: while the slot towards the host is unread, the pump is
behind by one swap. -/
def CaughtUp (count capacity : ℕ) (session : Bench F T) (events : List (BenchEvent F T)) : Prop :=
  KeepingUp count capacity (session.run events).memory (session.run events).sampling
      (.ofEvents ((session.trace events).flatMap (·.handled)))
      (((session.trace events).flatMap (·.delivered)).map (·.buffer)) ∧
    ((session.run events).memory.arena.pru0ToHost.isUnread = true →
      behind (session.trace events) = true)

/-- The last event of a run loses nothing. -/
theorem CaughtUp.step {session : Bench F T} {events : List (BenchEvent F T)}
    {event : BenchEvent F T} (h : CaughtUp count capacity session events) (hcount : 2 ≤ count)
    (hkept : KeptUp capacity session (events ++ [event])) :
    CaughtUp count capacity session (events ++ [event]) ∧
      (session.run (events ++ [event])).sampling.stats.dropped =
        (session.run events).sampling.stats.dropped ∧
      ((PeriodLog.ofEvents ((session.trace (events ++ [event])).flatMap (·.handled))).lasting ≠
          none →
        (session.run (events ++ [event])).sampling.stats.discarded =
          (session.run events).sampling.stats.discarded) := by
  obtain ⟨hbefore, hbehind⟩ := h
  have hserviced := hkept.serviced
  have hfits := hkept.fits
  rw [trace_concat] at hserviced
  rw [trace_concat, ofEvents_handled_concat] at hfits
  have hread : (Transition.mk (session.run events) event).handlesSwap = true →
      (session.run events).memory.arena.pru0ToHost.isUnread = false := by
    intro hswap
    have hcaught := (keepsUp_concat hserviced).2 hswap
    by_contra hunread
    rw [hbehind (by simpa using hunread)] at hcaught
    cases hcaught
  obtain ⟨hafter, hstats⟩ :=
    keepingUp_step hbefore hcount (hkept.quiet event (by simp)) hread hfits
  rw [CaughtUp, trace_concat, ofEvents_handled_concat, run_append, List.flatMap_append,
    List.flatMap_singleton, List.map_append]
  refine ⟨⟨hafter, fun hunread => ?_⟩, hstats⟩
  obtain ⟨hservice, hcause⟩ :=
    behind_of_unread ⟨session.run events, event⟩ hbefore hafter hunread
  rw [behind_concat, hservice]
  obtain hearlier | hswap := hcause
  · simp [hbehind hearlier]
  · simp [hswap]

theorem caughtUp_run (hnew : BufferPool.new count capacity = .ok setup.pool) (hcount : 2 ≤ count)
    (hfresh : StartsFresh setup prelude) {events : List (BenchEvent F T)}
    (hkept : KeptUp capacity ((start setup).run prelude) events) :
    CaughtUp count capacity ((start setup).run prelude) events := by
  induction events using List.reverseRecOn with
  | nil =>
      have hstart := keepingUp_fresh hnew hfresh
      exact ⟨hstart, fun hunread => absurd (hstart.isUnread_iff.mp hunread) (Nat.lt_irrefl 0)⟩
  | append_singleton events event ih => exact ((ih hkept.of_concat).step hcount hkept).1

theorem lasting_of_handlesSwap {session : Bench F T} {events : List (BenchEvent F T)}
    (hswap : (session.trace events).any (·.handlesSwap) = true) (more : List (BenchEvent F T)) :
    (PeriodLog.ofEvents ((session.trace (events ++ more)).flatMap (·.handled))).lasting ≠
      none := by
  obtain ⟨transition, hmem, hhandles⟩ := List.any_eq_true.mp hswap
  obtain ⟨timestamp, hhandled⟩ := exists_swap_of_handlesSwap hhandles
  refine PeriodLog.lasting_foldl (List.mem_flatMap.mpr ⟨transition, ?_, hhandled⟩) {}
  rw [trace_append]
  exact List.mem_append_left _ hmem

/-- No counter of losses moves, that of the samples from the first swap on. -/
theorem losses_run (hnew : BufferPool.new count capacity = .ok setup.pool) (hcount : 2 ≤ count)
    (hfresh : StartsFresh setup prelude) {events more : List (BenchEvent F T)}
    (hkept : KeptUp capacity ((start setup).run prelude) (events ++ more)) :
    let session := (start setup).run prelude
    (session.run (events ++ more)).sampling.stats.dropped =
        (session.run events).sampling.stats.dropped ∧
      ((session.trace events).any (·.handlesSwap) = true →
        (session.run (events ++ more)).sampling.stats.discarded =
          (session.run events).sampling.stats.discarded) := by
  intro session
  induction more using List.reverseRecOn with
  | nil => simp
  | append_singleton more event ih =>
      rw [← List.append_assoc] at hkept ⊢
      obtain ⟨hdropped, hdiscarded⟩ := ih hkept.of_concat
      have hbefore := caughtUp_run hnew hcount hfresh hkept.of_concat
      obtain ⟨-, hdropped', hdiscarded'⟩ := hbefore.step hcount hkept
      refine ⟨hdropped'.trans hdropped, fun hswap => ?_⟩
      rw [List.append_assoc] at hdiscarded'
      have hlasting := lasting_of_handlesSwap hswap (more ++ [event])
      rw [List.append_assoc]
      exact (hdiscarded' hlasting).trans (hdiscarded hswap)

/-- While the host keeps up with a session over a pool of two buffers or more, no finished buffer is
dropped, from the first swap on there is a buffer to fill and no sample is discarded, an exhausted
pool is never reported, and the next service completes what the sink has seen to a record of every
period that ended, in order.  The count of dropped buffers stays zero if every reset was finished on
flags from after its request, and stays what it was otherwise. -/
theorem nothing_lost (hnew : BufferPool.new count capacity = .ok setup.pool) (hcount : 2 ≤ count)
    (hfresh : StartsFresh setup prelude) {events : List (BenchEvent F T)}
    (hkept : KeptUp capacity ((start setup).run prelude) events) :
    let session := (start setup).run prelude
    let bench := session.run events
    bench.sampling.stats.dropped = session.sampling.stats.dropped ∧
    (FinishesFresh ((start setup).trace prelude) → bench.sampling.stats.dropped = 0) ∧
    (∀ earlier more, events = earlier ++ more →
      (session.trace earlier).any (·.handlesSwap) = true →
        bench.sampling.current.isSome = true ∧
        bench.sampling.stats.discarded = (session.run earlier).sampling.stats.discarded) ∧
    (bench.memory.arena.pru0Status.event .pru0).code ≠ .bufferPoolExhausted ∧
    List.Forall₂ (fun filled period => Records capacity filled.buffer period)
      ((session.trace (events ++ [.service])).flatMap (·.delivered))
      (PeriodLog.ofEvents ((session.trace events).flatMap (·.handled))).ended := by
  intro session bench
  obtain ⟨hkeeping, -⟩ := caughtUp_run hnew hcount hfresh hkept
  have hdropped : bench.sampling.stats.dropped = session.sampling.stats.dropped :=
    (@losses_run _ _ _ _ _ _ _ _ hnew hcount hfresh [] events hkept).1
  refine ⟨hdropped, fun hfinishes => ?_, ?_, hkeeping.reported, ?_⟩
  · exact hdropped.trans (congrArg SamplingStats.dropped (stats_fresh hfresh hfinishes))
  · rintro earlier more rfl hswap
    refine ⟨?_, (losses_run hnew hcount hfresh hkept).2 hswap⟩
    rw [Option.isSome_iff_ne_none]
    exact hkeeping.filling (lasting_of_handlesSwap hswap more)
  · have hserved := (hkeeping.service bench.pump).forall₂
    have hread := (hkeeping.length_service bench.pump).2.2
    rw [SharedMemory.announced_of_read hread, List.append_nil, ← List.map_append,
      List.forall₂_map_left_iff] at hserved
    rw [trace_concat, List.flatMap_append, List.flatMap_singleton]
    exact hserved

/-- Two periods after a reset, the first one as long as the buffers have room for. -/
theorem nothing_lost_two :
    let setup := BenchSetup.simulated 2 2
    let prelude := [.requestReset, .step .sampling, .step .timing, .completeReset]
    let events := [.setMode .disabled, .setState .armed, .setState .running, .step .sampling,
      .step .sampling, .raiseBufferSwap 1000, .step .sampling, .service, .raiseSample,
      .step .sampling, .raiseSample, .step .sampling, .raiseBufferSwap 2000, .step .sampling,
      .service, .raiseSample, .step .sampling, .raiseBufferSwap 3000, .step .sampling]
    let session := (start setup).run prelude
    let bench := session.run events
    BufferPool.new 2 2 = .ok setup.pool ∧ StartsFresh setup prelude ∧ KeptUp 2 session events ∧
    (PeriodLog.ofEvents ((session.trace events).flatMap (·.handled))).ended.length = 2 ∧
    bench.sampling.stats.dropped = session.sampling.stats.dropped ∧
    (FinishesFresh ((start setup).trace prelude) → bench.sampling.stats.dropped = 0) ∧
    (∀ earlier more, events = earlier ++ more →
      (session.trace earlier).any (·.handlesSwap) = true →
        bench.sampling.current.isSome = true ∧
        bench.sampling.stats.discarded = (session.run earlier).sampling.stats.discarded) ∧
    (bench.memory.arena.pru0Status.event .pru0).code ≠ .bufferPoolExhausted ∧
    List.Forall₂ (fun filled period => Records 2 filled.buffer period)
      ((session.trace (events ++ [.service])).flatMap (·.delivered))
      (PeriodLog.ofEvents ((session.trace events).flatMap (·.handled))).ended := by
  refine ⟨rfl, ?fresh, ?kept, by decide +kernel,
    @nothing_lost _ _ _ _ 2 2 _ _ rfl le_rfl ?fresh _ ?kept⟩
  case fresh =>
    exact .inr ⟨[.requestReset, .step .sampling, .step .timing], rfl, by decide +kernel⟩
  case kept => exact ⟨by decide +kernel, by decide +kernel, by decide +kernel⟩

/-- The samples raised by hand in each period announced by hand, the last period first. -/
def raisedSamples (events : List (BenchEvent F T)) : List ℕ :=
  events.foldl
    (fun counts event =>
      match event, counts with
      | .raiseBufferSwap _, _ => 0 :: counts
      | .raiseSample, count :: earlier => (count + 1) :: earlier
      | _, _ => counts)
    []

/-- One sample is raised in each of two periods, and the buffers have room for one.  The first one
is still waiting when the second period begins, which therefore has two samples. -/
theorem nothing_lost_raised :
    let setup := BenchSetup.simulated 2 1
    let begun := [.setMode .disabled, .setState .armed, .setState .running, .step .sampling,
      .step .sampling, .raiseBufferSwap 1000, .step .sampling]
    let events := begun ++ [.service, .raiseSample, .raiseBufferSwap 2000, .step .sampling,
      .service, .raiseSample, .step .sampling, .raiseBufferSwap 3000, .step .sampling, .service]
    let session := start setup
    BufferPool.new 2 1 = .ok setup.pool ∧ (∀ event ∈ events, staysQuiet event = true) ∧
      KeepsUp (session.trace events) ∧ raisedSamples events = [0, 1, 1] ∧
      (session.trace begun).any (·.handlesSwap) = true ∧
      (session.run begun).sampling.stats.discarded = 0 ∧
      (session.run events).sampling.stats.discarded = 1 := by
  decide +kernel

end Bench

end HarvestTestbed
