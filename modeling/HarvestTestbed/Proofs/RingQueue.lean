import Mathlib
import HarvestTestbed.Proofs.FreeRing

/-!
# The free ring is a bounded queue

Seen through its calls, the free ring is a first-in, first-out queue that refuses an index only when
it is full.  The queue is a list that never grows beyond its capacity.  The ring holds it between
two counters that run freely, so the proof goes through one relation: the indices from head to tail,
read modulo the capacity, are the list.  Every call keeps that relation and is answered alike
(`call_eq`), and so is every run, whatever the counters were at its start and however often they
wrap on the way.
-/

namespace HarvestTestbed

/-! ## Calls and answers -/

inductive RingCall
  | push (index : UInt32)
  | pop
  | length
  | isEmpty
  | isFull
  | contains (index : UInt32)
  deriving DecidableEq

inductive RingAnswer
  | pushed (accepted : Bool)
  | popped (index : Option UInt32)
  | counted (queued : ℕ)
  | told (holds : Bool)
  deriving DecidableEq

namespace RingCall

variable {σ : Type}

def after (step : σ → RingCall → RingAnswer × σ) (state : σ) (calls : List RingCall) : σ :=
  calls.foldl (fun state call => (step state call).2) state

def answers (step : σ → RingCall → RingAnswer × σ) : σ → List RingCall → List RingAnswer
  | _, [] => []
  | state, call :: calls => (step state call).1 :: answers step (step state call).2 calls

/-- The index that a call has queued. -/
def queued? : RingCall → RingAnswer → Option UInt32
  | .push index, .pushed true => some index
  | _, _ => none

def queued (step : σ → RingCall → RingAnswer × σ) (state : σ) (calls : List RingCall) :
    List UInt32 :=
  (calls.zip (answers step state calls)).filterMap fun exchange => exchange.1.queued? exchange.2

theorem queued_cons (step : σ → RingCall → RingAnswer × σ) (state : σ) (call : RingCall)
    (calls : List RingCall) :
    queued step state (call :: calls) =
      (call.queued? (step state call).1).toList ++ queued step (step state call).2 calls := by
  simp only [queued, answers, List.zip_cons_cons, List.filterMap_cons]
  cases call.queued? (step state call).1 <;> rfl

end RingCall

/-- The index that was taken out. -/
def RingAnswer.popped? : RingAnswer → Option UInt32
  | .popped index => index
  | .pushed _ | .counted _ | .told _ => none

/-! ## A bounded queue -/

/-- A queue of indices, oldest first, that holds at most `capacity` of them. -/
structure BoundedQueue (capacity : ℕ) where
  entries : List UInt32
  within : entries.length ≤ capacity

namespace BoundedQueue

variable {capacity : ℕ}

def empty : BoundedQueue capacity := ⟨[], Nat.zero_le _⟩

def push (queue : BoundedQueue capacity) (index : UInt32) : Bool × BoundedQueue capacity :=
  if hroom : queue.entries.length < capacity then
    (true, ⟨queue.entries ++ [index], by simpa using hroom⟩)
  else (false, queue)

def pop (queue : BoundedQueue capacity) : Option UInt32 × BoundedQueue capacity :=
  (queue.entries.head?, ⟨queue.entries.tail, by
    rw [List.length_tail]
    exact (Nat.sub_le _ _).trans queue.within⟩)

/-- The answer to a call, and the queue afterwards. -/
def call (queue : BoundedQueue capacity) : RingCall → RingAnswer × BoundedQueue capacity
  | .push index => (.pushed (queue.push index).1, (queue.push index).2)
  | .pop => (.popped queue.pop.1, queue.pop.2)
  | .length => (.counted queue.entries.length, queue)
  | .isEmpty => (.told queue.entries.isEmpty, queue)
  | .isFull => (.told (queue.entries.length = capacity), queue)
  | .contains index => (.told (index ∈ queue.entries), queue)

/-- What is queued before a call and by it is what it takes out and what is queued then. -/
theorem accounts_call (queue : BoundedQueue capacity) (call : RingCall) :
    queue.entries ++ (call.queued? (queue.call call).1).toList =
      (queue.call call).1.popped?.toList ++ (queue.call call).2.entries := by
  cases call with
  | push index =>
    simp only [BoundedQueue.call, push]
    split <;> simp [RingCall.queued?, RingAnswer.popped?]
  | pop =>
    simp only [BoundedQueue.call, pop]
    cases queue.entries <;> simp [RingCall.queued?, RingAnswer.popped?]
  | length | isEmpty | isFull | contains =>
    simp [BoundedQueue.call, RingCall.queued?, RingAnswer.popped?]

/-- Indices leave in the order in which they were queued, and all but the ones still queued have
left. -/
theorem accounts (queue : BoundedQueue capacity) (calls : List RingCall) :
    queue.entries ++ RingCall.queued call queue calls =
      (RingCall.answers call queue calls).filterMap RingAnswer.popped? ++
        (RingCall.after call queue calls).entries := by
  induction calls generalizing queue with
  | nil => simp [RingCall.queued, RingCall.answers, RingCall.after]
  | cons next calls ih =>
    have hleft : ((queue.call next).1 :: RingCall.answers call (queue.call next).2 calls).filterMap
          RingAnswer.popped? = (queue.call next).1.popped?.toList ++
        (RingCall.answers call (queue.call next).2 calls).filterMap RingAnswer.popped? := by
      rw [List.filterMap_cons]
      cases (queue.call next).1.popped? <;> rfl
    rw [RingCall.queued_cons, ← List.append_assoc, accounts_call, List.append_assoc, ih,
      RingCall.answers, hleft, List.append_assoc]
    rfl

end BoundedQueue

/-! ## The ring -/

namespace FreeRing

variable {ring : FreeRing} {queue : BoundedQueue ringCapacity}

/-- The answer to a call, and the ring afterwards. -/
def call (ring : FreeRing) : RingCall → RingAnswer × FreeRing
  | .push index =>
      match ring.push? index with
      | some next => (.pushed true, next)
      | none => (.pushed false, ring)
  | .pop =>
      match ring.pop? with
      | some (index, next) => (.popped (some index), next)
      | none => (.popped none, ring)
  | .length => (.counted ring.length, ring)
  | .isEmpty => (.told ring.isEmpty, ring)
  | .isFull => (.told ring.isFull, ring)
  | .contains index => (.told (ring.contains index), ring)

/-- The indices between head and tail, as a queue. -/
def toQueue (ring : FreeRing) (hlevel : ring.length ≤ ringCapacity) : BoundedQueue ringCapacity :=
  ⟨ring.toList, ring.length_toList.trans_le hlevel⟩

def Holds (ring : FreeRing) (queue : BoundedQueue ringCapacity) : Prop :=
  ring.toList = queue.entries

theorem Holds.length_eq (h : ring.Holds queue) : ring.length = queue.entries.length := by
  rw [← ring.length_toList, h]

theorem Holds.push (h : ring.Holds queue) (index : UInt32) :
    (ring.call (.push index)).1 = .pushed (queue.push index).1 ∧
      (ring.call (.push index)).2.Holds (queue.push index).2 := by
  by_cases hroom : queue.entries.length < ringCapacity
  · have hpush := push?_eq_some_of_lt ring index (h.length_eq ▸ hroom)
    simp only [call, BoundedQueue.push, hpush, dif_pos hroom, true_and]
    exact (toList_of_push? hpush).trans (congrArg (· ++ [index]) h)
  · have hpush := (push?_eq_none_iff ring index).mpr (h.length_eq ▸ Nat.not_lt.mp hroom)
    simp only [call, BoundedQueue.push, hpush, dif_neg hroom, true_and]
    exact h

theorem Holds.pop (h : ring.Holds queue) :
    (ring.call .pop).1 = .popped queue.pop.1 ∧ (ring.call .pop).2.Holds queue.pop.2 := by
  cases hpop : ring.pop? with
  | none =>
    have hempty : queue.entries = [] := h.symm.trans ((pop?_eq_none_iff ring).mp hpop)
    simp only [call, BoundedQueue.pop, hpop, hempty, List.head?_nil, true_and]
    exact h.trans hempty
  | some taken =>
    obtain ⟨index, next⟩ := taken
    have hentries : queue.entries = index :: next.toList := h.symm.trans (toList_of_pop? hpop)
    simp only [call, BoundedQueue.pop, hpop, hentries, List.head?_cons, true_and]
    rfl

/-- Each call at the ring is answered as by the queue it holds. -/
theorem Holds.call_eq (h : ring.Holds queue) (next : RingCall) :
    (ring.call next).1 = (queue.call next).1 ∧ (ring.call next).2.Holds (queue.call next).2 := by
  have hlevel : ring.length ≤ ringCapacity := h.length_eq.trans_le queue.within
  cases next with
  | push index => exact h.push index
  | pop => exact h.pop
  | length => exact ⟨congrArg RingAnswer.counted h.length_eq, h⟩
  | isEmpty =>
    refine ⟨congrArg RingAnswer.told ?_, h⟩
    rw [isEmpty, h.length_eq, Bool.eq_iff_iff, beq_iff_eq, List.length_eq_zero_iff,
      List.isEmpty_iff]
  | isFull =>
    refine ⟨congrArg RingAnswer.told ?_, h⟩
    rw [isFull, h.length_eq, decide_eq_decide]
    exact ⟨fun hfull => le_antisymm queue.within hfull, fun hfull => hfull.ge⟩
  | contains index =>
    refine ⟨congrArg RingAnswer.told ?_, h⟩
    rw [contains_eq hlevel, h, List.contains_eq_mem]

/-- Over a run, the ring is a bounded queue. -/
structure ActsAs (ring : FreeRing) (queue : BoundedQueue ringCapacity) (calls : List RingCall) :
    Prop where
  /-- A push is refused only by a full queue, a pop gets the oldest index, and the ring tells what
  is queued. -/
  answers : RingCall.answers call ring calls = RingCall.answers BoundedQueue.call queue calls
  /-- What the ring holds in the end is the queue. -/
  holds : (RingCall.after call ring calls).Holds (RingCall.after BoundedQueue.call queue calls)
  /-- Indices leave in the order in which they were queued. -/
  accounts : queue.entries ++ RingCall.queued call ring calls =
    (RingCall.answers call ring calls).filterMap RingAnswer.popped? ++
      (RingCall.after call ring calls).toList

theorem Holds.run_eq (h : ring.Holds queue) (calls : List RingCall) :
    RingCall.answers call ring calls = RingCall.answers BoundedQueue.call queue calls ∧
      (RingCall.after call ring calls).Holds (RingCall.after BoundedQueue.call queue calls) := by
  induction calls generalizing ring queue with
  | nil => exact ⟨rfl, h⟩
  | cons next calls ih =>
    obtain ⟨hanswer, hnext⟩ := h.call_eq next
    obtain ⟨hanswers, hafter⟩ := ih hnext
    exact ⟨by rw [RingCall.answers, RingCall.answers, hanswer, hanswers], hafter⟩

theorem Holds.actsAs (h : ring.Holds queue) (calls : List RingCall) :
    ring.ActsAs queue calls := by
  obtain ⟨hanswers, hafter⟩ := h.run_eq calls
  have hqueued : RingCall.queued call ring calls =
      RingCall.queued BoundedQueue.call queue calls := by
    rw [RingCall.queued, hanswers, RingCall.queued]
  refine ⟨hanswers, hafter, ?_⟩
  rw [hqueued, queue.accounts calls, hanswers, hafter]

/-- From a reset, a ring acts as an empty queue, and from any counters that are no further apart
than the capacity as the queue of the indices between them. -/
theorem actsAs_queue (ring : FreeRing) (calls : List RingCall) :
    ring.reset.ActsAs .empty calls ∧
      ∀ hlevel : ring.length ≤ ringCapacity, ring.ActsAs (ring.toQueue hlevel) calls := by
  have hreset : ring.reset.Holds .empty := ring.toList_reset
  refine ⟨hreset.actsAs calls, fun hlevel => ?_⟩
  have hholds : ring.Holds (ring.toQueue hlevel) := rfl
  exact hholds.actsAs calls

/-- The counters of this ring are about to wrap, and its queue is one short of full. -/
def nearlyFull : FreeRing :=
  { slots := Vector.ofFn fun slot => UInt32.ofNat slot.val, head := 0xffffffd8, tail := 23 }

/-- The ring takes one index more, refuses the next, and gives the oldest back; the tail has wrapped
and the head has not. -/
theorem actsAs_queue_nearlyFull :
    let calls := [.length, .push 99, .push 100, .isFull, .pop, .contains 24, .contains 99, .length]
    (∃ hlevel : nearlyFull.length ≤ ringCapacity,
        nearlyFull.ActsAs (nearlyFull.toQueue hlevel) calls) ∧
      RingCall.answers call nearlyFull calls =
        [.counted 63, .pushed true, .pushed false, .told true, .popped (some 24), .told false,
          .told true, .counted 63] := by
  intro calls
  have hlevel : nearlyFull.length ≤ ringCapacity := by decide +kernel
  exact ⟨⟨hlevel, (actsAs_queue nearlyFull calls).2 hlevel⟩, by decide +kernel⟩

end FreeRing

end HarvestTestbed
