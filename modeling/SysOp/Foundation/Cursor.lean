import Mathlib.Data.List.Basic

/-!
# Reading a stream from the front

`Cursor stream taken rest` says that `taken` items have been taken from the
front of `stream` and that `rest` is what is left.  A stream may grow at its
end while it is read.
-/

namespace SysOp.Foundation

universe u

structure Cursor {Item : Type u} (stream : List Item) (taken : Nat)
    (rest : List Item) : Prop where
  inside : taken ≤ stream.length
  left : stream.drop taken = rest

namespace Cursor

variable {Item : Type u} {stream rest : List Item} {taken : Nat}

theorem start : Cursor ([] : List Item) 0 [] := ⟨Nat.le_refl 0, rfl⟩

theorem extend (cursor : Cursor stream taken rest) (items : List Item) :
    Cursor (stream ++ items) taken (rest ++ items) where
  inside := by
    rw [List.length_append]
    exact Nat.le_add_right_of_le cursor.inside
  left := by rw [List.drop_append_of_le_length cursor.inside, cursor.left]

theorem skip (front : List Item)
    (cursor : Cursor stream taken (front ++ rest)) :
    Cursor stream (taken + front.length) rest where
  inside := by
    have length := congrArg List.length cursor.left
    rw [List.length_drop, List.length_append] at length
    have inside := cursor.inside
    omega
  left := by rw [← List.drop_drop, cursor.left, List.drop_left]

theorem next {item : Item} (cursor : Cursor stream taken (item :: rest)) :
    stream[taken]? = some item := by
  have first := congrArg List.head? cursor.left
  rwa [List.head?_drop] at first

end Cursor

end SysOp.Foundation
