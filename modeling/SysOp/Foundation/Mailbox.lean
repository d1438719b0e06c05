import SysOp.Foundation.Machine

/-!
# Mailboxes with one slot

A writer puts items into a slot and overwrites what is there; a reader looks,
takes what it finds and delivers it before it looks again.  `mailbox` accepts
what can happen.  Whatever it accepts delivers a part of what was put, in order,
and loses an item only to a newer one.
-/

namespace SysOp.Foundation

universe u

inductive MailEvent (Item : Type u) where
  | put (item : Item)
  | look
  | deliver (item : Item)
  deriving DecidableEq

/-- What waits in the slot, and what the reader has taken out of it. -/
structure Mailbox (Item : Type u) where
  waiting : Option Item
  taken : Option Item

variable {Item : Type u}

def puts (trace : List (MailEvent Item)) : List Item :=
  trace.filterMap fun
    | .put item => some item
    | _ => none

def deliveries (trace : List (MailEvent Item)) : List Item :=
  trace.filterMap fun
    | .deliver item => some item
    | _ => none

namespace Mailbox

def empty : Mailbox Item := ⟨none, none⟩

/-- A newer item is put into the slot before the next look. -/
def Replaced (later : List (MailEvent Item)) : Prop :=
  ∃ between newer after,
    later = between ++ .put newer :: after ∧ .look ∉ between

/-- The next look comes before any newer item, and delivers. -/
def Delivered (item : Item) (later : List (MailEvent Item)) : Prop :=
  ∃ between busy after,
    later = between ++ .look :: (busy ++ .deliver item :: after) ∧
      .look ∉ between ∧ puts between = [] ∧
      .look ∉ busy ∧ deliveries busy = []

variable [DecidableEq Item]

def mailbox : Acceptor (Mailbox Item) (MailEvent Item) where
  next box
    | .put item => some { box with waiting := some item }
    | .look =>
        match box.taken with
        | none => some { waiting := none, taken := box.waiting }
        | some _ => none
    | .deliver item =>
        if box.taken = some item then some { box with taken := none } else none

variable {box final : Mailbox Item} {item : Item}
  {trace later : List (MailEvent Item)}

theorem accept_look (idle : box.taken = none) :
    mailbox.accept box [.look] = some ⟨none, box.waiting⟩ := by
  simp [mailbox, idle]

theorem accept_deliver (held : box.taken = some item) :
    mailbox.accept box [.deliver item] = some ⟨box.waiting, none⟩ := by
  simp [mailbox, held]

theorem next_look_eq_some (looked : mailbox.next box .look = some final) :
    box.taken = none ∧ final = ⟨none, box.waiting⟩ := by
  simp only [mailbox] at looked
  split at looked
  case h_1 idle =>
    cases looked
    exact ⟨idle, rfl⟩
  case h_2 => cases looked

theorem next_deliver_eq_some
    (delivered : mailbox.next box (.deliver item) = some final) :
    box.taken = some item ∧ final = { box with taken := none } := by
  simp only [mailbox] at delivered
  split at delivered
  case isTrue held =>
    cases delivered
    exact ⟨held, rfl⟩
  case isFalse => cases delivered

/-- What is delivered or still held has been put, in the same order. -/
theorem deliveries_sublist (accepted : mailbox.accept box trace = some final) :
    List.Sublist
      (deliveries trace ++ final.taken.toList ++ final.waiting.toList)
      (box.taken.toList ++ box.waiting.toList ++ puts trace) := by
  induction trace generalizing box with
  | nil =>
      cases accepted
      simp [deliveries, puts]
  | cons event rest inductionHypothesis =>
      rw [Acceptor.accept_cons, Option.bind_eq_some_iff] at accepted
      obtain ⟨middle, first, remaining⟩ := accepted
      have sublist := inductionHypothesis remaining
      cases event with
      | put newer =>
          cases first
          refine sublist.trans ?_
          simp [puts]
      | look =>
          obtain ⟨idle, rfl⟩ := next_look_eq_some first
          simpa [idle, deliveries, puts] using sublist
      | deliver held =>
          obtain ⟨taken, rfl⟩ := next_deliver_eq_some first
          simpa [taken, deliveries, puts] using sublist

/-- The reader delivers what it has taken before it looks again. -/
theorem delivered_of_taken (taken : box.taken = some item)
    (accepted : mailbox.accept box later = some final) :
    (.look ∉ later ∧ final.taken = some item) ∨
      ∃ busy after, later = busy ++ .deliver item :: after ∧
        .look ∉ busy ∧ deliveries busy = [] := by
  induction later generalizing box with
  | nil =>
      cases accepted
      exact .inl ⟨List.not_mem_nil, taken⟩
  | cons event rest inductionHypothesis =>
      rw [Acceptor.accept_cons, Option.bind_eq_some_iff] at accepted
      obtain ⟨middle, first, remaining⟩ := accepted
      cases event with
      | put newer =>
          cases first
          have held : (⟨some newer, box.taken⟩ : Mailbox Item).taken =
            some item := taken
          rcases inductionHypothesis held remaining with
            ⟨unseen, held⟩ | ⟨busy, after, rfl, unseen, none⟩
          · exact .inl ⟨by simpa using unseen, held⟩
          · refine .inr ⟨.put newer :: busy, after, rfl, by simpa using unseen, ?_⟩
            simpa [deliveries] using none
      | look =>
          have idle := (next_look_eq_some first).1
          rw [taken] at idle
          cases idle
      | deliver held =>
          have same := (next_deliver_eq_some first).1
          rw [taken, Option.some.injEq] at same
          subst same
          exact .inr ⟨[], rest, rfl, List.not_mem_nil, rfl⟩

/-- What becomes of the item in the slot. -/
theorem fate_of_waiting (waiting : box.waiting = some item)
    (accepted : mailbox.accept box later = some final) :
    Replaced later ∨ .look ∉ later ∨ Delivered item later ∨
      final.taken = some item := by
  induction later generalizing box with
  | nil => exact .inr (.inl List.not_mem_nil)
  | cons event rest inductionHypothesis =>
      rw [Acceptor.accept_cons, Option.bind_eq_some_iff] at accepted
      obtain ⟨middle, first, remaining⟩ := accepted
      cases event with
      | put newer =>
          exact .inl ⟨[], newer, rest, rfl, List.not_mem_nil⟩
      | look =>
          obtain ⟨_, rfl⟩ := next_look_eq_some first
          rcases delivered_of_taken waiting remaining with
            ⟨_, held⟩ | ⟨busy, after, rfl, unseen, none⟩
          · exact .inr (.inr (.inr held))
          · exact .inr (.inr (.inl
              ⟨[], busy, after, rfl, List.not_mem_nil, rfl, unseen, none⟩))
      | deliver held =>
          obtain ⟨_, rfl⟩ := next_deliver_eq_some first
          have still : (⟨box.waiting, none⟩ : Mailbox Item).waiting =
            some item := waiting
          rcases inductionHypothesis still remaining with
            ⟨between, newer, after, rfl, unseen⟩ | unseen |
            ⟨between, busy, after, rfl, unseen, none, rest⟩ | kept
          · exact .inl ⟨.deliver held :: between, newer, after, rfl,
              by simpa using unseen⟩
          · exact .inr (.inl (by simpa using unseen))
          · refine .inr (.inr (.inl ⟨.deliver held :: between, busy, after, rfl,
              by simpa using unseen, ?_, rest⟩))
            simpa [puts] using none
          · exact .inr (.inr (.inr kept))

theorem fate {earlier : List (MailEvent Item)}
    (accepted : mailbox.accept box (earlier ++ .put item :: later) =
      some final) :
    Replaced later ∨ .look ∉ later ∨ Delivered item later ∨
      final.taken = some item := by
  rw [Acceptor.accept_append, Option.bind_eq_some_iff] at accepted
  obtain ⟨middle, _, remaining⟩ := accepted
  rw [Acceptor.accept_cons, Option.bind_eq_some_iff] at remaining
  obtain ⟨stored, first, remaining⟩ := remaining
  cases first
  exact fate_of_waiting rfl remaining

end Mailbox

end SysOp.Foundation
