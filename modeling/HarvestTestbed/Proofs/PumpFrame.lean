import HarvestTestbed.Host.MessagePump
import HarvestTestbed.Proofs.Ledger

/-!
# What the pump does to the session

Status events move no buffer, and messages write no control word.  The one control word that the
pump ever writes is the session state, when it declares a fault.
-/

namespace HarvestTestbed.MessagePump

/-- The control words are kept, or a fault was declared. -/
def KeepsOrFaults (before after : SharedMemory) : Prop :=
  after.control = before.control ∨
    after.control = { before.control with sessionState := SessionState.fault.toWord }

theorem keepsOrFaults_trans {first second third : SharedMemory}
    (hleft : KeepsOrFaults first second) (hright : KeepsOrFaults second third) :
    KeepsOrFaults first third := by
  obtain hright | hright := hright
  · exact hleft.imp hright.trans hright.trans
  · refine .inr ?_
    obtain hleft | hleft := hleft <;> rw [hright, hleft]

/-! ## Status events -/

theorem material_declareFault (pump : MessagePump) (memory : SharedMemory)
    (event : StatusEvent) : (pump.declareFault memory event).2.material = memory.material := by
  rw [declareFault]
  split
  · exact memory.material_setState .fault
  · rfl

theorem keepsOrFaults_declareFault (pump : MessagePump) (memory : SharedMemory)
    (event : StatusEvent) : KeepsOrFaults memory (pump.declareFault memory event).2 := by
  rw [declareFault]
  split
  · have hopen : memory.state.canMoveTo .fault = true := by
      cases memory.state <;> rfl
    have hcontrol := congrArg Ledger.control (memory.ledger_setState .fault)
    rw [if_pos hopen] at hcontrol
    exact .inr hcontrol
  · exact .inl rfl

theorem onStatuses_cases (pump : MessagePump) (memory : SharedMemory)
    (events : List StatusEvent) :
    (pump.onStatuses memory events).2.material = memory.material ∧
      KeepsOrFaults memory (pump.onStatuses memory events).2 := by
  induction events generalizing pump memory with
  | nil => exact ⟨rfl, .inl rfl⟩
  | cons event events ih =>
      obtain ⟨hmaterial, hcontrol⟩ := ih (pump.onStatus memory event).1
        (pump.onStatus memory event).2
      refine ⟨hmaterial.trans ?_, keepsOrFaults_trans ?_ hcontrol⟩
      · exact material_declareFault _ _ event
      · exact keepsOrFaults_declareFault _ _ event

/-! ## Messages -/

theorem control_onBuffer (pump : MessagePump) (memory : SharedMemory) (index : UInt32) :
    (pump.onBuffer memory index).2.2.control = memory.control := by
  have hclaimed := memory.control_claim index
  rw [onBuffer]
  split <;> rename_i heq <;> rw [heq] at hclaimed
  · exact hclaimed
  · exact (SharedMemory.control_recycle _ _).trans hclaimed

theorem control_onMessage (pump : MessagePump) (memory : SharedMemory) (message : Message) :
    (pump.onMessage memory message).2.2.control = memory.control := by
  rw [onMessage]
  split
  · exact pump.control_onBuffer memory message.first
  · rfl
  · exact memory.control_notify _ _ _ _

theorem slot_onMessage (pump : MessagePump) (memory : SharedMemory) (message : Message) :
    (pump.onMessage memory message).2.2.arena.pru0ToHost = memory.arena.pru0ToHost := by
  have hclaimed : (memory.claim message.first).2.arena.pru0ToHost = memory.arena.pru0ToHost := by
    rw [SharedMemory.claim]
    split <;> rfl
  have hrecycled : ∀ (memory : SharedMemory) handle,
      (memory.recycle handle).2.arena.pru0ToHost = memory.arena.pru0ToHost := by
    intro memory handle
    simp only [SharedMemory.recycle]
    split <;> rfl
  rw [onMessage]
  cases message.type with
  | bufferFilled =>
      simp only [onBuffer]
      split <;> rename_i heq <;> rw [heq] at hclaimed
      · exact hclaimed
      · exact (hrecycled _ _).trans hclaimed
  | pong | none | ping | syncRequest | syncReply => rfl

/-! ## A whole service -/

theorem keepsOrFaults_service (pump : MessagePump) (memory : SharedMemory) :
    KeepsOrFaults memory (pump.service memory).memory := by
  have hpolled := SharedMemory.control_of_ledger memory.ledger_pollStatus
  have hhandled := (pump.onStatuses_cases memory.pollStatus.2 memory.pollStatus.1).2
  have hreceived := SharedMemory.control_pumpReceive
    (pump.onStatuses memory.pollStatus.2 memory.pollStatus.1).2
  refine keepsOrFaults_trans (keepsOrFaults_trans (.inl hpolled) hhandled) (.inl ?_)
  unfold service
  dsimp only
  split <;> rename_i heq <;> rw [heq] at hreceived
  · exact hreceived
  · exact (control_onMessage _ _ _).trans hreceived

theorem state_service (pump : MessagePump) (memory : SharedMemory) :
    (pump.service memory).memory.state = memory.state ∨
      (pump.service memory).memory.state = .fault := by
  obtain hkept | hfault := pump.keepsOrFaults_service memory
  · exact .inl (SharedMemory.state_of_control hkept)
  · right
    rw [SharedMemory.state_eq_control, hfault, SessionState.ofWord_toWord]

end HarvestTestbed.MessagePump
