import Mathlib.Data.Nat.ModEq

/-!
# Circular arrays

`RingHolds slots head tail items` says that an array with a read index and a
write index stores exactly `items`, oldest first, from the read index on.
Nothing is said about the other slots, and the number of items is not read
off the indices: `head = tail` holds for an empty and for a full array.
-/

namespace SysOp.Foundation

universe u

structure RingHolds {Item : Type u} {size : Nat} (slots : Vector Item size)
    (head tail : Nat) (items : List Item) : Prop where
  fits : items.length ≤ size
  head_lt : head < size
  tail_eq : tail = (head + items.length) % size
  slot : ∀ {position : Nat}, position < items.length →
    slots[(head + position) % size]? = items[position]?

namespace RingHolds

variable {Item : Type u} {size head tail : Nat} {slots : Vector Item size}
  {item : Item} {items : List Item}

theorem empty (slots : Vector Item size) (inRange : head < size) :
    RingHolds slots head head [] where
  fits := Nat.zero_le size
  head_lt := inRange
  tail_eq := (Nat.mod_eq_of_lt inRange).symm
  slot := fun inItems => by simp at inItems

theorem size_pos (held : RingHolds slots head tail items) : 0 < size :=
  Nat.zero_lt_of_lt held.head_lt

theorem tail_lt (held : RingHolds slots head tail items) : tail < size := by
  rw [held.tail_eq]
  exact Nat.mod_lt _ held.size_pos

/-- Two positions less than a full turn apart are different slots. -/
theorem index_injective {first second : Nat} (start : Nat)
    (firstInRange : first < size) (secondInRange : second < size)
    (same : (start + first) % size = (start + second) % size) :
    first = second := by
  have congruent : first ≡ second [MOD size] :=
    Nat.ModEq.add_left_cancel' start same
  exact congruent.eq_of_lt_of_lt firstInRange secondInRange

/-- The slot written next holds none of the stored items. -/
theorem tail_free (held : RingHolds slots head tail items)
    (room : items.length < size) {position : Nat}
    (stored : position < items.length) : (head + position) % size ≠ tail := by
  intro same
  rw [held.tail_eq] at same
  have equality := index_injective head (stored.trans room) room same
  omega

theorem front (held : RingHolds slots head tail (item :: items)) :
    slots[head]? = some item := by
  have first := @held.slot 0 (by simp)
  simpa [Nat.mod_eq_of_lt held.head_lt] using first

theorem push (held : RingHolds slots head tail items)
    (room : items.length < size) (item : Item) :
    RingHolds (slots.setIfInBounds tail item) head ((tail + 1) % size)
      (items ++ [item]) where
  fits := by simpa using Nat.succ_le_of_lt room
  head_lt := held.head_lt
  tail_eq := by simp [held.tail_eq, Nat.add_assoc]
  slot := by
    intro position inItems
    rcases Nat.lt_or_ge position items.length with stored | beyond
    · rw [Vector.getElem?_setIfInBounds_ne (held.tail_free room stored).symm,
        held.slot stored, List.getElem?_append_left stored]
    · have last : position = items.length := by
        simp only [List.length_append, List.length_singleton] at inItems
        omega
      subst position
      rw [← held.tail_eq, Vector.getElem?_setIfInBounds_self_of_lt held.tail_lt]
      simp

theorem pop (held : RingHolds slots head tail (item :: items)) :
    RingHolds slots ((head + 1) % size) tail items where
  fits := by
    have fits := held.fits
    simp only [List.length_cons] at fits
    omega
  head_lt := Nat.mod_lt _ held.size_pos
  tail_eq := by
    rw [held.tail_eq, Nat.mod_add_mod, List.length_cons]
    congr 1
    omega
  slot := by
    intro position inItems
    have later := @held.slot (position + 1) (by simpa using inItems)
    rw [Nat.mod_add_mod, Nat.add_assoc, Nat.add_comm 1 position]
    simpa using later

end RingHolds

end SysOp.Foundation
