import SysOp.Lab5.Protocol

/-!
# Abstract task stores

What the shared memory is for, without slots and indices: a store takes
orders in and hands receipts out.  Reading a trace, it must be able to hand
out exactly the receipts the trace shows.
-/

namespace SysOp.Lab5

open SysOp.Foundation

structure Store (Order Receipt Content : Type) where
  empty : Content
  put : Order → Content → Content
  take : Content → Option (Receipt × Content)
  promote : Content → Content
  size : Content → Nat
  size_empty : size empty = 0
  size_put : ∀ order content, size (put order content) = size content + 1
  size_take : ∀ {content receipt rest},
    take content = some (receipt, rest) → size content = size rest + 1
  size_promote : ∀ content, size (promote content) = size content

namespace Store

variable {Order Receipt Content : Type} [DecidableEq Receipt]

/-- The store as a specification of traces. -/
def acceptor (store : Store Order Receipt Content) :
    Acceptor Content (Event Order Receipt) where
  next content
    | .inserted order => some (store.put order content)
    | .removed receipt =>
        (store.take content).bind fun (taken, rest) =>
          if taken = receipt then some rest else none
    | .aged => some (store.promote content)
    | .managerEntered | .warned | .managerLeft => some content

variable (store : Store Order Receipt Content) (content : Content)

@[simp]
theorem next_inserted (order : Order) :
    store.acceptor.next content (.inserted order) =
      some (store.put order content) := rfl

@[simp]
theorem next_aged :
    store.acceptor.next content .aged = some (store.promote content) := rfl

@[simp]
theorem next_removed_eq_some_iff (receipt : Receipt) (rest : Content) :
    store.acceptor.next content (.removed receipt) = some rest ↔
      store.take content = some (receipt, rest) := by
  simp only [acceptor, Option.bind_eq_some_iff, Prod.exists,
    Option.ite_none_right_eq_some, Option.some.injEq]
  constructor
  · rintro ⟨taken, remaining, took, rfl, rfl⟩
    exact took
  · intro took
    exact ⟨receipt, rest, took, rfl, rfl⟩

@[simp]
theorem next_managerEntered :
    store.acceptor.next content .managerEntered = some content := rfl

@[simp]
theorem next_warned :
    store.acceptor.next content .warned = some content := rfl

@[simp]
theorem next_managerLeft :
    store.acceptor.next content .managerLeft = some content := rfl

end Store

section Traces

variable {Order Receipt : Type}

@[simp]
def Event.order? : Event Order Receipt → Option Order
  | .inserted order => some order
  | _ => none

@[simp]
def Event.receipt? : Event Order Receipt → Option Receipt
  | .removed receipt => some receipt
  | _ => none

/-- The orders a trace inserts, in the order of their critical sections. -/
def insertions (trace : List (Event Order Receipt)) : List Order :=
  trace.filterMap Event.order?

/-- The receipts a trace removes, in the order of their critical sections. -/
def removals (trace : List (Event Order Receipt)) : List Receipt :=
  trace.filterMap Event.receipt?

@[simp]
theorem insertions_nil : insertions ([] : List (Event Order Receipt)) = [] :=
  rfl

@[simp]
theorem removals_nil : removals ([] : List (Event Order Receipt)) = [] := rfl

@[simp]
theorem insertions_cons (event : Event Order Receipt)
    (trace : List (Event Order Receipt)) :
    insertions (event :: trace) = event.order?.toList ++ insertions trace := by
  cases event <;> simp [insertions, List.filterMap_cons]

@[simp]
theorem removals_cons (event : Event Order Receipt)
    (trace : List (Event Order Receipt)) :
    removals (event :: trace) = event.receipt?.toList ++ removals trace := by
  cases event <;> simp [removals, List.filterMap_cons]

end Traces

end SysOp.Lab5
