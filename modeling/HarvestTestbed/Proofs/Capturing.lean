import HarvestTestbed.Proofs.CaptureFrame
import HarvestTestbed.Proofs.RecordingSteps

/-!
# Edges and the buffers they go into

Every edge that is recorded is noted on the page of the buffer being filled, together with the
timestamp announced last, the timestamp of the period that the sampling loop is in, and whether an
announcement waits.  A page is begun when the loop begins a period in its buffer.  From then until
the buffer is shown to the sink, its edge log is the log of its page: while it is filled, while it
waits to be handed over, and while it is announced.
-/

namespace HarvestTestbed

/-- A recorded edge, with what was announced and handled at that moment. -/
structure Stamp where
  event : EdgeEvent
  /-- The timestamp announced last. -/
  announced : UInt64
  /-- The timestamp of the last swap that the sampling loop handled. -/
  handled : UInt64
  /-- Whether an announced swap waits to be handled. -/
  waiting : Bool
  deriving DecidableEq, Repr

/-- What was recorded for a buffer in the last period that was begun in it. -/
structure Page where
  timestamp : UInt64 := 0
  stamps : List Stamp := []
  deriving DecidableEq, Repr

namespace Page

def add (page : Page) (stamps : List Stamp) : Page :=
  { page with stamps := page.stamps ++ stamps }

/-- The log that results from recording the edges of a page. -/
def log (page : Page) : EdgeLog :=
  page.stamps.foldl (fun log stamp => (log.push stamp.event).2) {}

@[simp]
theorem log_opened (timestamp : UInt64) : log { timestamp := timestamp } = {} :=
  rfl

@[simp]
theorem add_nil (page : Page) : page.add [] = page := by
  simp [add]

/-- The log of a page follows the log of its buffer edge by edge. -/
theorem log_add_singleton (page : Page) (stamp : Stamp) :
    (page.add [stamp]).log = (page.log.push stamp.event).2 := by
  simp [log, add, List.foldl_append]

end Page

/-- Where edges go while a buffer is being filled, or none is. -/
def EdgeTarget.of (current : Option ProducerHandle) : EdgeTarget :=
  match current with
  | some handle => ⟨handle.index, true⟩
  | none => {}

@[simp]
theorem EdgeTarget.of_eq_iff (current : Option ProducerHandle) (index : UInt32) :
    EdgeTarget.of current = ⟨index, true⟩ ↔ current = some ⟨index⟩ := by
  cases current with
  | none => simp [EdgeTarget.of]
  | some handle =>
      obtain ⟨place⟩ := handle
      simp [EdgeTarget.of]

/-- Capture into another buffer than the one being filled has stopped already. -/
theorem EdgeTarget.detach_of {current : Option ProducerHandle} {index : UInt32}
    (hother : ∀ handle, current = some handle → handle.index ≠ index) :
    (EdgeTarget.of current).detach index = .of current := by
  simp only [EdgeTarget.detach]
  cases current with
  | none => rfl
  | some handle => simp [EdgeTarget.of, hother handle rfl]

/-- The pages once a period was begun in the buffer of the loop. -/
def SamplingLoop.reopen {F : Type} (loop : SamplingLoop F) (pages : UInt32 → Page) :
    UInt32 → Page :=
  fun index => if loop.current = some ⟨index⟩ then { timestamp := loop.bufferTimestamp }
    else pages index

/-- The pages once edges were noted for the buffer of the loop. -/
def SamplingLoop.note {F : Type} (loop : SamplingLoop F) (stamps : List Stamp)
    (pages : UInt32 → Page) : UInt32 → Page :=
  fun index => if loop.current = some ⟨index⟩ then (pages index).add stamps else pages index

@[simp]
theorem SamplingLoop.note_nil {F : Type} (loop : SamplingLoop F) (pages : UInt32 → Page) :
    loop.note [] pages = pages := by
  funext index
  simp [note]

/-- What is noted of an edge that is recorded now. -/
def SamplingLoop.stamp {F : Type} (loop : SamplingLoop F) (event : EdgeEvent)
    (memory : SharedMemory) : Stamp where
  event := event
  announced := memory.arena.bufferTimestamp
  handled := loop.bufferTimestamp
  waiting := memory.swapPending

/-- The buffer being filled, the one that waits and the one announced have the logs of their pages,
and will carry the timestamps of them. -/
structure Paged {F : Type} (memory : SharedMemory) (loop : SamplingLoop F)
    (pages : UInt32 → Page) : Prop where
  current : ∀ handle, loop.current = some handle →
    memory.pool.edges? handle.index = some (pages handle.index).log ∧
      loop.bufferTimestamp = (pages handle.index).timestamp
  pending : ∀ handle summary, loop.pending = some (handle, summary) →
    memory.pool.edges? handle.index = some (pages handle.index).log ∧
      summary.timestamp = (pages handle.index).timestamp
  announced : ∀ index, memory.announcedIndex? = some index →
    memory.pool.edges? index = some (pages index).log ∧
      ∀ buffer, memory.pool.buffer? index = some buffer →
        buffer.timestamp = (pages index).timestamp

theorem SharedMemory.edges?_of_logs {before after : SharedMemory}
    (hlogs : after.capture.logs = before.capture.logs) (index : UInt32) :
    after.pool.edges? index = before.pool.edges? index := by
  have hpool : after.pool.logs = before.pool.logs := hlogs
  rw [BufferPool.edges?_eq_logs, hpool, ← BufferPool.edges?_eq_logs]

namespace Paged

variable {F : Type} {count capacity : ℕ} {memory after : SharedMemory} {loop : SamplingLoop F}
variable {log : PeriodLog} {delivered : List SampleBuffer} {pages : UInt32 → Page}

/-! ## What it depends on -/

/-- No announcement is made, the announced buffer keeps its content, and all logs are kept. -/
theorem of_edges (h : Paged memory loop pages)
    (hedges : ∀ index, after.pool.edges? index = memory.pool.edges? index)
    (hannounced : ∀ index, after.announcedIndex? = some index →
      memory.announcedIndex? = some index ∧
        after.pool.buffer? index = memory.pool.buffer? index) :
    Paged after loop pages := by
  constructor
  case current =>
    intro handle hcurrent
    rw [hedges]
    exact h.current handle hcurrent
  case pending =>
    intro handle summary hpending
    rw [hedges]
    exact h.pending handle summary hpending
  case announced =>
    intro index hindex
    obtain ⟨hbefore, hbuffer⟩ := hannounced index hindex
    rw [hedges, hbuffer]
    exact h.announced index hbefore

theorem of_material (h : Paged memory loop pages) (hmaterial : after.material = memory.material)
    (hlogs : after.capture.logs = memory.capture.logs) : Paged after loop pages := by
  refine h.of_edges (SharedMemory.edges?_of_logs hlogs) fun index hindex => ⟨?_, ?_⟩
  · rwa [← SharedMemory.announcedIndex?_of_material hmaterial]
  · exact SharedMemory.buffer?_of_material hmaterial index

theorem of_loop (h : Paged memory loop pages) {next : SamplingLoop F}
    (hcurrent : next.current = loop.current) (hpending : next.pending = loop.pending)
    (htimestamp : next.bufferTimestamp = loop.bufferTimestamp) : Paged memory next pages where
  current handle hhandle := by
    rw [htimestamp]
    exact h.current handle (hcurrent ▸ hhandle)
  pending handle summary hhandle := h.pending handle summary (hpending ▸ hhandle)
  announced := h.announced

/-- A loop without buffers leaves what is announced. -/
theorem of_empty (h : Paged memory loop pages) {next : SamplingLoop F}
    (hcurrent : next.current = none) (hpending : next.pending = none) :
    Paged memory next pages where
  current handle hhandle := by simp [hcurrent] at hhandle
  pending handle summary hhandle := by simp [hpending] at hhandle
  announced := h.announced

/-- What happens to the buffer being filled alone leaves what waits and what is announced. -/
theorem of_current (h : Paged memory loop pages) {next : SamplingLoop F} {renewed : UInt32 → Page}
    {index : UInt32} (hcurrent : next.current = some ⟨index⟩) (hpending : next.pending = loop.pending)
    (hannounced : after.announcedIndex? = memory.announcedIndex?)
    (hwaits : ∀ handle summary, loop.pending = some (handle, summary) → handle.index ≠ index)
    (hsent : memory.announcedIndex? ≠ some index)
    (hfilling : after.pool.edges? index = some (renewed index).log ∧
      next.bufferTimestamp = (renewed index).timestamp)
    (hkept : ∀ other, other ≠ index → after.pool.edges? other = memory.pool.edges? other ∧
      after.pool.buffer? other = memory.pool.buffer? other ∧ renewed other = pages other) :
    Paged after next renewed := by
  constructor
  case current =>
    intro handle hsome
    obtain rfl := Option.some.inj (hcurrent.symm.trans hsome)
    exact hfilling
  case pending =>
    intro handle summary hsome
    rw [hpending] at hsome
    obtain ⟨hedges, -, hpage⟩ := hkept handle.index (hwaits handle summary hsome)
    rw [hedges, hpage]
    exact h.pending handle summary hsome
  case announced =>
    intro other hsome
    rw [hannounced] at hsome
    have hne : other ≠ index := by
      rintro rfl
      exact hsent hsome
    obtain ⟨hedges, hbuffer, hpage⟩ := hkept other hne
    rw [hedges, hbuffer, hpage]
    exact h.announced other hsome

/-- A period begins in a buffer with an empty log. -/
theorem reopen (h : Paged memory loop pages) {next : SamplingLoop F} {index : UInt32}
    (hcurrent : next.current = some ⟨index⟩) (hpending : next.pending = loop.pending)
    (hannounced : after.announcedIndex? = memory.announcedIndex?)
    (hwaits : ∀ handle summary, loop.pending = some (handle, summary) → handle.index ≠ index)
    (hsent : memory.announcedIndex? ≠ some index) (hempty : after.pool.edges? index = some {})
    (hkept : ∀ other, other ≠ index → after.pool.edges? other = memory.pool.edges? other ∧
      after.pool.buffer? other = memory.pool.buffer? other) :
    Paged after next (next.reopen pages) := by
  refine h.of_current hcurrent hpending hannounced hwaits hsent ⟨?_, ?_⟩ fun other hne => ?_
  · rw [hempty]
    simp [SamplingLoop.reopen, hcurrent]
  · simp [SamplingLoop.reopen, hcurrent]
  · obtain ⟨hedges, hbuffer⟩ := hkept other hne
    exact ⟨hedges, hbuffer, by simp [SamplingLoop.reopen, hcurrent, Ne.symm hne]⟩

/-! ## Handing a buffer over -/

/-- A buffer that is accepted takes its page with it. -/
theorem handOver_of_read {handle : ProducerHandle} {summary : BufferMeta}
    (h : Paged memory { loop with pending := some (handle, summary) } pages)
    (howner : memory.pool.owner? handle.index = some .producer) (hpending : loop.pending = none)
    (hread : memory.arena.pru0ToHost.isUnread = false) :
    Paged (loop.handOver memory handle summary).2 (loop.handOver memory handle summary).1
      pages := by
  obtain ⟨hedges, htimestamp⟩ := h.pending handle summary rfl
  have hlogs := congrArg Capture.logs (memory.capture_release handle summary)
  have hkept := SharedMemory.edges?_of_logs hlogs
  have heq := SharedMemory.release_of_read howner summary hread
  rw [heq] at hkept
  simp only [SamplingLoop.handOver, heq]
  constructor
  case current =>
    intro current hcurrent
    rw [hkept]
    exact h.current current hcurrent
  case pending =>
    intro waiting more hwaits
    simp [hpending] at hwaits
  case announced =>
    intro index hannounced
    rw [SharedMemory.announcedIndex?_filled rfl, Option.some.injEq] at hannounced
    subst hannounced
    refine ⟨(hkept handle.index).trans hedges, fun buffer hbuffer => ?_⟩
    simp only [SharedMemory.buffer?_marked, if_true] at hbuffer
    obtain ⟨finished, -, rfl⟩ := Option.map_eq_some_iff.mp hbuffer
    exact htimestamp

/-- A buffer that is refused keeps its page and waits on. -/
theorem handOver_of_unread {handle : ProducerHandle} {summary : BufferMeta}
    (h : Paged memory { loop with pending := some (handle, summary) } pages)
    (hrecording : Recording count capacity memory
      { loop with pending := some (handle, summary) } log delivered)
    (hunread : memory.arena.pru0ToHost.isUnread = true) :
    Paged (loop.handOver memory handle summary).2 (loop.handOver memory handle summary).1
      pages := by
  have howner := hrecording.owner?_pending rfl
  have hlogs := congrArg Capture.logs (memory.capture_release handle summary)
  have heq := SharedMemory.release_of_unread howner summary hunread
  rw [heq] at hlogs
  simp only [SamplingLoop.handOver, heq]
  refine h.of_edges (SharedMemory.edges?_of_logs hlogs) fun index hannounced => ⟨hannounced, ?_⟩
  have hne : index ≠ handle.index := by
    rintro rfl
    rw [hrecording.announced_filled _ hannounced] at howner
    cases howner
  simp only [BufferPool.buffer?_setOwner, SharedMemory.buffer?_marked, if_neg hne]

/-- Whether it is accepted or waits, a buffer that is handed over keeps its log. -/
theorem handOver {handle : ProducerHandle} {summary : BufferMeta}
    (h : Paged memory { loop with pending := some (handle, summary) } pages)
    (hrecording : Recording count capacity memory
      { loop with pending := some (handle, summary) } log delivered)
    (hpending : loop.pending = none) :
    Paged (loop.handOver memory handle summary).2 (loop.handOver memory handle summary).1
      pages := by
  cases hread : memory.arena.pru0ToHost.isUnread with
  | false => exact h.handOver_of_read (hrecording.owner?_pending rfl) hpending hread
  | true => exact h.handOver_of_unread hrecording hread

/-! ## Beginning a period -/

/-- The buffer of a period that ends waits. -/
theorem endPeriod (h : Paged memory loop pages) {finished : ProducerHandle}
    (hcurrent : loop.current = some finished) (timestamp : UInt64) :
    Paged memory
      { loop.openPeriod timestamp with current := none, pending := some (finished, loop.summary) }
      pages where
  current _ := nofun
  pending handle summary hpending := by
    obtain ⟨rfl, rfl⟩ := Prod.mk.inj (Option.some.inj hpending)
    exact h.current finished hcurrent
  announced := h.announced

/-- The swap that follows a period without a buffer. -/
theorem openPeriod_of_empty (h : Paged memory loop pages) (hcurrent : loop.current = none)
    (timestamp : UInt64) : Paged memory (loop.openPeriod timestamp) pages where
  current handle hhandle := by simp [SamplingLoop.openPeriod, hcurrent] at hhandle
  pending := h.pending
  announced := h.announced

/-- A free buffer becomes the target with an empty log, and neither waits nor is announced. -/
theorem acquire (h : Paged memory loop pages)
    (hrecording : Recording count capacity memory loop log delivered)
    (hcurrent : loop.current = none) :
    let next := { loop with current := memory.acquire.1 }
    Paged (memory.acquire.2.swapEdges (memory.acquire.1.map (·.index))) next
      (next.reopen pages) := by
  obtain ⟨-, heq⟩ | ⟨index, ring, -, howner, heq⟩ := hrecording.ownership.acquire_cases
  · rw [heq]
    have hpages : SamplingLoop.reopen { loop with current := none } pages = pages := by
      funext index
      simp [SamplingLoop.reopen]
    have hquiet : Paged ((memory.notify .pru0 .bufferPoolExhausted 0
        (UInt32.ofNat memory.pool.size)).swapEdges none) loop pages := h.of_material rfl rfl
    simp only [Option.map_none]
    rw [hpages]
    exact hquiet.of_loop hcurrent.symm rfl rfl
  · have hother : ∀ owner, memory.pool.owner? index = some owner → owner = .freeRing := by
      intro owner hothers
      rw [howner, Option.some.injEq] at hothers
      exact hothers.symm
    have hlogs := congrArg Capture.logs memory.capture_acquire
    have hkept := SharedMemory.edges?_of_logs hlogs
    have hsize : index.toNat < memory.acquire.2.pool.size := by
      rw [heq]
      simpa using BufferPool.lt_size_of_owner? howner
    have hswapped := (SharedMemory.swapEdges_some hsize).2
    have hmaterial := SharedMemory.material_of_ledger
      (memory.acquire.2.ledger_swapEdges (some index))
    have hbuffer := SharedMemory.buffer?_of_material hmaterial
    have hindex := SharedMemory.announcedIndex?_of_material hmaterial
    rw [heq] at hkept hswapped hbuffer hindex ⊢
    refine h.reopen rfl rfl hindex ?_ ?_ ?_ fun other hne => ⟨?_, ?_⟩
    · rintro handle summary hpending rfl
      cases hother _ (hrecording.owner?_pending hpending)
    · intro hannounced
      cases hother _ (hrecording.announced_filled index hannounced)
    · exact (hswapped index).trans (if_pos rfl)
    · exact (hswapped other).trans ((if_neg hne).trans (hkept other))
    · refine (hbuffer other).trans ?_
      simp only [BufferPool.buffer?_editBuffer, BufferPool.buffer?_setOwner, if_neg hne]

/-- A buffer that is used again for the next period starts with an empty log. -/
theorem reuse (h : Paged memory loop pages)
    (hrecording : Recording count capacity memory loop log delivered)
    {handle : ProducerHandle} (hcurrent : loop.current = some handle) (timestamp : UInt64) :
    Paged (memory.swapEdges (some handle.index)) (loop.openPeriod timestamp)
      ((loop.openPeriod timestamp).reopen pages) := by
  have howner := hrecording.owner?_current hcurrent
  have hswapped := (SharedMemory.swapEdges_some (BufferPool.lt_size_of_owner? howner)).2
  have hmaterial := SharedMemory.material_of_ledger (memory.ledger_swapEdges (some handle.index))
  refine h.reopen hcurrent rfl (SharedMemory.announcedIndex?_of_material hmaterial) ?_
    (hrecording.current_not_announced hcurrent) ?_ fun other hne => ⟨?_, ?_⟩
  · exact fun waiting summary hpending => (hrecording.current_ne_pending hcurrent hpending).symm
  · exact (hswapped handle.index).trans (if_pos rfl)
  · exact (hswapped other).trans (if_neg hne)
  · exact SharedMemory.buffer?_of_material hmaterial other

/-- An edge goes into the log of the buffer being filled and onto its page. -/
theorem record (h : Paged memory loop pages) (htarget : memory.capture.target = .of loop.current)
    (hrecording : Recording count capacity memory loop log delivered) (stamp : Stamp) :
    Paged (memory.recordEdge stamp.event).2 loop (loop.note [stamp] pages) := by
  have hmaterial := SharedMemory.material_of_ledger (memory.ledger_recordEdge stamp.event)
  have hindex := SharedMemory.announcedIndex?_of_material hmaterial
  have hedges := memory.edges?_recordEdge stamp.event
  simp only [htarget, EdgeTarget.of_eq_iff] at hedges
  cases hcurrent : loop.current with
  | none =>
      have hpages : loop.note [stamp] pages = pages := by
        funext index
        simp [SamplingLoop.note, hcurrent]
      rw [hpages]
      refine h.of_edges (fun index => ?_) fun index hannounced => ⟨hindex ▸ hannounced, ?_⟩
      · simp [hedges, hcurrent]
      · exact SharedMemory.buffer?_of_material hmaterial index
  | some handle =>
      obtain ⟨place⟩ := handle
      obtain ⟨hlog, htimestamp⟩ := h.current ⟨place⟩ hcurrent
      refine h.of_current hcurrent rfl hindex ?_ (hrecording.current_not_announced hcurrent)
        ⟨?_, ?_⟩ fun other hne => ⟨?_, SharedMemory.buffer?_of_material hmaterial other, ?_⟩
      · exact fun waiting summary hpending =>
          (hrecording.current_ne_pending hcurrent hpending).symm
      · simp [SamplingLoop.note, hcurrent, Page.log_add_singleton, hedges, hlog]
      · simpa [SamplingLoop.note, hcurrent, Page.add] using htimestamp
      · simp [hedges, hcurrent, Ne.symm hne]
      · simp [SamplingLoop.note, hcurrent, Ne.symm hne]

end Paged

/-- Edges go into the buffer being filled and nowhere else, and its page, like those of the buffers
on their way to the sink, says what its log is. -/
structure Capturing {F : Type} (memory : SharedMemory) (loop : SamplingLoop F)
    (pages : UInt32 → Page) : Prop where
  paged : Paged memory loop pages
  target : memory.capture.target = .of loop.current

namespace Capturing

variable {F : Type} {count capacity : ℕ} {memory after : SharedMemory} {loop : SamplingLoop F}
variable {log : PeriodLog} {delivered : List SampleBuffer} {pages : UInt32 → Page}

theorem of_material (h : Capturing memory loop pages)
    (hmaterial : after.material = memory.material)
    (hlogs : after.capture.logs = memory.capture.logs)
    (htarget : after.capture.target = memory.capture.target) : Capturing after loop pages where
  paged := h.paged.of_material hmaterial hlogs
  target := htarget.trans h.target

theorem of_ledger (h : Capturing memory loop pages) (hledger : after.ledger = memory.ledger)
    (hlogs : after.capture.logs = memory.capture.logs)
    (htarget : after.capture.target = memory.capture.target) : Capturing after loop pages :=
  h.of_material (SharedMemory.material_of_ledger hledger) hlogs htarget

theorem of_loop (h : Capturing memory loop pages) {next : SamplingLoop F}
    (hcurrent : next.current = loop.current) (hpending : next.pending = loop.pending)
    (htimestamp : next.bufferTimestamp = loop.bufferTimestamp) : Capturing memory next pages where
  paged := h.paged.of_loop hcurrent hpending htimestamp
  target := by
    rw [hcurrent]
    exact h.target

theorem handOver {handle : ProducerHandle} {summary : BufferMeta}
    (h : Capturing memory { loop with pending := some (handle, summary) } pages)
    (hrecording : Recording count capacity memory
      { loop with pending := some (handle, summary) } log delivered)
    (hpending : loop.pending = none) :
    Capturing (loop.handOver memory handle summary).2 (loop.handOver memory handle summary).1
      pages where
  paged := h.paged.handOver hrecording hpending
  target := by
    have hrelease := congrArg Capture.target (memory.capture_release handle summary)
    have hdetach : (EdgeTarget.of loop.current).detach handle.index = .of loop.current :=
      EdgeTarget.detach_of fun current hcurrent => hrecording.current_ne_pending hcurrent rfl
    have htarget : memory.capture.target = .of loop.current := h.target
    rw [htarget, hdetach] at hrelease
    rw [SamplingLoop.handOver]
    split <;> rename_i heq <;> rw [heq] at hrelease <;> exact hrelease

theorem retryPending (h : Capturing memory loop pages)
    (hrecording : Recording count capacity memory loop log delivered) :
    Capturing (loop.retryPending memory).2 (loop.retryPending memory).1 pages := by
  rw [SamplingLoop.retryPending]
  split
  · rename_i handle summary hpending
    exact handOver (h.of_loop rfl hpending.symm rfl) (hrecording.of_loop rfl hpending.symm rfl) rfl
  · exact h

omit log delivered in
theorem target_acquire {handles : List ProducerHandle}
    (hownership : Ownership count memory handles []) :
    (memory.acquire.2.swapEdges (memory.acquire.1.map (·.index))).capture.target =
      .of memory.acquire.1 := by
  obtain ⟨-, heq⟩ | ⟨index, ring, -, howner, heq⟩ := hownership.acquire_cases
  · rw [heq]
    rfl
  · have hlt : index.toNat < memory.acquire.2.pool.size := by
      rw [heq]
      simpa using BufferPool.lt_size_of_owner? howner
    have htarget := (SharedMemory.swapEdges_some hlt).1
    rw [heq] at htarget ⊢
    exact htarget

omit pages in
theorem reopen_handOver (handle : ProducerHandle) (summary : BufferMeta)
    (pages : UInt32 → Page) :
    (loop.handOver memory handle summary).1.reopen pages = loop.reopen pages := by
  rw [SamplingLoop.handOver]
  split <;> rfl

/-- A swap begins a period in whichever buffer the loop then has. -/
theorem handleSwap (h : Capturing memory loop pages)
    (hrecording : Recording count capacity memory loop log delivered) (timestamp : UInt64) :
    Capturing (loop.handleSwap memory timestamp).2 (loop.handleSwap memory timestamp).1
      ((loop.handleSwap memory timestamp).1.reopen pages) := by
  rw [SamplingLoop.handleSwap]
  split
  · rename_i handle waiting hcurrent hpending
    have hlt := BufferPool.lt_size_of_owner? (hrecording.owner?_current hcurrent)
    have htarget := (SharedMemory.swapEdges_some hlt).1
    exact
      { paged := (h.paged.reuse hrecording hcurrent timestamp).of_loop rfl rfl rfl
        target := by
          simp only [SamplingLoop.reuseBuffer, SamplingLoop.openPeriod, hcurrent, htarget]
          rfl }
  · rename_i hnot
    simp only [SamplingLoop.exchangeBuffer]
    cases hcurrent : loop.current with
    | none =>
        have hopened := hrecording.openPeriod timestamp
        exact
          { paged := (h.paged.openPeriod_of_empty hcurrent timestamp).acquire hopened hcurrent
            target := target_acquire hrecording.ownership }
    | some finished =>
        have hpending : loop.pending = none := by
          cases hpending : loop.pending with
          | none => rfl
          | some waiting => exact absurd hpending (hnot finished waiting hcurrent)
        have hended := hrecording.endPeriod hcurrent hpending timestamp
        have hpaged := (h.paged.endPeriod hcurrent timestamp).acquire hended rfl
        have hacquired := (hended.acquire rfl rfl rfl).of_material
          (SharedMemory.material_of_ledger
            (memory.acquire.2.ledger_swapEdges (memory.acquire.1.map (·.index))))
        have hcaptured : Capturing
            (memory.acquire.2.swapEdges (memory.acquire.1.map (·.index)))
            { loop.openPeriod timestamp with
              current := memory.acquire.1, pending := some (finished, loop.summary) }
            (SamplingLoop.reopen { loop.openPeriod timestamp with current := memory.acquire.1 }
              pages) := ⟨hpaged, target_acquire hrecording.ownership⟩
        rw [reopen_handOver]
        exact handOver (hcaptured.of_loop rfl rfl rfl) (hacquired.of_loop rfl rfl rfl) hpending

/-- An edge is noted on the page of the buffer being filled, and on no other. -/
theorem record (h : Capturing memory loop pages)
    (hrecording : Recording count capacity memory loop log delivered) (stamp : Stamp) :
    Capturing (memory.recordEdge stamp.event).2 loop (loop.note [stamp] pages) where
  paged := h.paged.record h.target hrecording stamp
  target := h.target

end Capturing

end HarvestTestbed
