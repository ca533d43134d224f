import Mathlib
import HarvestTestbed.Buffer.FreeRing

/-!
# The free ring as a queue

The counters of the ring run freely and wrap at the word size, and a slot is addressed by a counter
modulo the capacity.  The capacity divides the word size, so the slots between head and tail stay
consecutive across a wrap.  This file proves that, as long as the fill level is within the
capacity, the list of queued indices is all there is to a ring: pushing appends to it and popping
takes its first entry away.
-/

namespace HarvestTestbed.FreeRing

@[simp]
theorem length_toList (ring : FreeRing) : ring.toList.length = ring.length := by
  simp [toList]

/-- Slots are addressed modulo the capacity, also across a wrap of the counter. -/
theorem slotIndex_add (counter : UInt32) (offset : ℕ) :
    (slotIndex (counter + UInt32.ofNat offset)).val =
      (counter.toNat + offset) % ringCapacity := by
  simp only [slotIndex, ringCapacity, UInt32.toNat_add, UInt32.toNat_ofNat']
  omega

theorem slotIndex_add_inj {counter : UInt32} {left right : ℕ}
    (hleft : left < ringCapacity) (hright : right < ringCapacity)
    (heq : slotIndex (counter + UInt32.ofNat left) =
      slotIndex (counter + UInt32.ofNat right)) : left = right := by
  have hval := congrArg Fin.val heq
  rw [slotIndex_add, slotIndex_add] at hval
  simp only [ringCapacity] at hleft hright hval
  omega

theorem tail_eq (ring : FreeRing) :
    ring.tail = ring.head + UInt32.ofNat ring.length := by
  simp only [length, UInt32.ofNat_toNat]
  grind

theorem length_of_tail_succ (ring : FreeRing) (hroom : ring.length < ringCapacity) :
    (ring.tail + 1 - ring.head).toNat = ring.length + 1 := by
  simp only [length, ringCapacity, UInt32.toNat_sub, UInt32.toNat_add, UInt32.toNat_one] at *
  omega

theorem length_of_head_succ (ring : FreeRing) (hqueued : ring.head ≠ ring.tail) :
    ring.length = (ring.tail - (ring.head + 1)).toNat + 1 := by
  have hne : ring.head.toNat ≠ ring.tail.toNat :=
    fun heq => hqueued (UInt32.toNat_inj.mp heq)
  have hhead := ring.head.toNat_lt
  have htail := ring.tail.toNat_lt
  simp only [length, UInt32.toNat_sub, UInt32.toNat_add, UInt32.toNat_one]
  omega

/-- A push is accepted if and only if there is room. -/
theorem push?_eq_none_iff (ring : FreeRing) (index : UInt32) :
    ring.push? index = none ↔ ringCapacity ≤ ring.length := by
  simp [push?, isFull]

theorem push?_eq_some_of_lt (ring : FreeRing) (index : UInt32)
    (hroom : ring.length < ringCapacity) :
    ring.push? index = some { ring with
      slots := ring.slots.set (slotIndex ring.tail) index (slotIndex ring.tail).isLt
      tail := ring.tail + 1 } := by
  simp only [push?, isFull, decide_eq_true_eq, if_neg (Nat.not_le.mpr hroom)]

/-- An accepted push appends to the queue. -/
theorem toList_of_push? {ring next : FreeRing} {index : UInt32}
    (hpush : ring.push? index = some next) : next.toList = ring.toList ++ [index] := by
  have hroom : ring.length < ringCapacity := by
    by_contra hfull
    rw [(push?_eq_none_iff ring index).mpr (Nat.not_lt.mp hfull)] at hpush
    cases hpush
  rw [push?_eq_some_of_lt ring index hroom, Option.some.injEq] at hpush
  subst hpush
  simp only [toList]
  rw [show FreeRing.length { ring with
      slots := ring.slots.set (slotIndex ring.tail) index
      tail := ring.tail + 1 } = ring.length + 1 from length_of_tail_succ ring hroom,
    List.range_succ, List.map_append]
  congr 1
  · apply List.map_congr_left
    intro offset hoffset
    have hlt : offset < ring.length := List.mem_range.mp hoffset
    have hne : slotIndex ring.tail ≠ slotIndex (ring.head + UInt32.ofNat offset) := by
      rw [tail_eq ring]
      intro heq
      exact hlt.ne' (slotIndex_add_inj hroom (hlt.trans hroom) heq)
    exact Vector.getElem_set_ne _ _ (fun hval => hne (Fin.ext hval))
  · have hslot : slotIndex (ring.head + UInt32.ofNat ring.length) = slotIndex ring.tail :=
      congrArg slotIndex (tail_eq ring).symm
    have hcell := congrArg
      (fun slot : Fin ringCapacity => (ring.slots.set (slotIndex ring.tail) index)[slot]) hslot
    exact congrArg (fun entry => [entry]) (hcell.trans (Vector.getElem_set_self _))

/-- A pop is refused if and only if the queue is empty. -/
theorem pop?_eq_none_iff (ring : FreeRing) : ring.pop? = none ↔ ring.toList = [] := by
  rw [← List.length_eq_zero_iff, length_toList]
  simp only [pop?]
  constructor
  · intro hpop
    have heq : ring.head = ring.tail := by
      by_contra hne
      simp [hne] at hpop
    simp [length, heq]
  · intro hlength
    have heq := tail_eq ring
    rw [hlength] at heq
    simp at heq
    simp [heq]

/-- An accepted pop takes the oldest entry away. -/
theorem toList_of_pop? {ring next : FreeRing} {index : UInt32}
    (hpop : ring.pop? = some (index, next)) : ring.toList = index :: next.toList := by
  have hqueued : ring.head ≠ ring.tail := by
    intro heq
    simp [pop?, heq] at hpop
  simp only [pop?, if_neg hqueued, Option.some.injEq, Prod.mk.injEq] at hpop
  obtain ⟨hindex, rfl⟩ := hpop
  simp only [toList]
  rw [length_of_head_succ ring hqueued, List.range_succ_eq_map, List.map_cons, List.map_map]
  congr 1
  · simpa using hindex
  · apply List.map_congr_left
    intro offset _
    have hslot : slotIndex (ring.head + UInt32.ofNat (offset + 1)) =
        slotIndex (ring.head + 1 + UInt32.ofNat offset) := by
      calc slotIndex (ring.head + UInt32.ofNat (offset + 1)) =
          slotIndex (ring.head + (UInt32.ofNat offset + 1)) := by
            rw [UInt32.ofNat_add]
            rfl
        _ = slotIndex (ring.head + (1 + UInt32.ofNat offset)) := by
            rw [UInt32.add_comm 1]
        _ = slotIndex (ring.head + 1 + UInt32.ofNat offset) := by
            rw [UInt32.add_assoc]
    exact congrArg (fun slot : Fin ringCapacity => ring.slots[slot]) hslot

/-- Within the capacity, the ring contains what it queues. -/
theorem contains_eq {ring : FreeRing} (hlength : ring.length ≤ ringCapacity) (index : UInt32) :
    ring.contains index = ring.toList.contains index := by
  rw [contains, toList, Nat.min_eq_left hlength, List.contains_eq_any_beq, List.any_map]
  congr 1
  funext offset
  exact Bool.beq_comm

@[simp]
theorem toList_reset (ring : FreeRing) : ring.reset.toList = [] := by
  simp [reset, toList, length]

/-- Filling a ring queues every index while there is room for all of them. -/
theorem toList_foldl_push? (indices : List UInt32) (ring : FreeRing)
    (hroom : ring.length + indices.length ≤ ringCapacity) :
    (indices.foldl (fun ring index => (ring.push? index).getD ring) ring).toList =
      ring.toList ++ indices := by
  induction indices generalizing ring with
  | nil => simp
  | cons index rest ih =>
      simp only [List.length_cons] at hroom
      have hpush := push?_eq_some_of_lt ring index (by omega)
      have happend := toList_of_push? hpush
      have hlength := congrArg List.length happend
      simp only [length_toList, List.length_append, List.length_singleton] at hlength
      simp only [List.foldl_cons, hpush, Option.getD_some]
      rw [ih _ (by omega), happend, List.append_assoc]
      rfl

end HarvestTestbed.FreeRing
