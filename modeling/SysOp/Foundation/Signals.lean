import Mathlib.Logic.Function.Basic

/-!
# The signals of a process

A process has a disposition for every signal, a mask of those that are blocked,
and a set of those that wait to be delivered.  While a handler runs its signal
is blocked as well, and when it returns the mask is what it was before.

The default action is to terminate the process.  A system may discard an ignored
signal that is blocked, or keep it until it is unblocked.
-/

namespace SysOp.Foundation

universe u v

inductive Disposition (Handler : Type v) where
  | default
  | ignore
  | handle (handler : Handler)
  deriving DecidableEq

theorem Disposition.heeded {Handler : Type v} {disposition : Disposition Handler}
    (default : disposition = .default) : disposition ≠ .ignore := by
  rw [default]
  rintro ⟨⟩

/-- A handler that has been entered, and the mask to come back. -/
structure Frame (Signal : Type u) (Handler : Type v) where
  signal : Signal
  handler : Handler
  mask : Signal → Bool

/-- `running` has the innermost handler first. -/
structure Signals (Signal : Type u) (Handler : Type v) where
  disposition : Signal → Disposition Handler
  blocked : Signal → Bool
  pending : Signal → Bool
  running : List (Frame Signal Handler)

/-- What becomes of a signal that is delivered. -/
inductive Delivery (Handler : Type v) where
  | discarded
  | terminated
  | entered (handler : Handler)

namespace Signals

variable {Signal : Type u} {Handler : Type v} [DecidableEq Signal]
  {signals next : Signals Signal Handler} {signal other : Signal}

/-- To ignore a signal discards it if it is pending. -/
def sigaction (signals : Signals Signal Handler) (signal : Signal)
    (disposition : Disposition Handler) : Signals Signal Handler :=
  { signals with
    disposition := Function.update signals.disposition signal disposition
    pending :=
      match disposition with
      | .ignore => Function.update signals.pending signal false
      | _ => signals.pending }

def block (signals : Signals Signal Handler) (signal : Signal) :
    Signals Signal Handler :=
  { signals with blocked := Function.update signals.blocked signal true }

def unblock (signals : Signals Signal Handler) (signal : Signal) :
    Signals Signal Handler :=
  { signals with blocked := Function.update signals.blocked signal false }

/-- The signal is ignored at once. -/
def discards (keeps : Bool) (signals : Signals Signal Handler)
    (signal : Signal) : Bool :=
  match signals.disposition signal with
  | .ignore => !(signals.blocked signal && keeps)
  | _ => false

/-- The signal is sent to the process. -/
def generate (keeps : Bool) (signals : Signals Signal Handler)
    (signal : Signal) : Signals Signal Handler :=
  if signals.discards keeps signal then signals
  else { signals with pending := Function.update signals.pending signal true }

def Deliverable (signals : Signals Signal Handler) (signal : Signal) : Prop :=
  signals.pending signal ∧ signals.blocked signal = false

instance (signals : Signals Signal Handler) (signal : Signal) :
    Decidable (signals.Deliverable signal) :=
  inferInstanceAs (Decidable (_ ∧ _))

/-- The signal is no longer pending. -/
def clear (signals : Signals Signal Handler) (signal : Signal) :
    Signals Signal Handler :=
  { signals with pending := Function.update signals.pending signal false }

/-- The handler is called with its signal blocked. -/
def enter (signals : Signals Signal Handler) (signal : Signal)
    (handler : Handler) : Signals Signal Handler :=
  { signals.block signal with
    running := ⟨signal, handler, signals.blocked⟩ :: signals.running }

def deliver (signals : Signals Signal Handler) (signal : Signal) :
    Option (Signals Signal Handler × Delivery Handler) :=
  if signals.Deliverable signal then
    match signals.disposition signal with
    | .default => some (signals.clear signal, .terminated)
    | .ignore => some (signals.clear signal, .discarded)
    | .handle handler =>
        some ((signals.clear signal).enter signal handler, .entered handler)
  else none

/-- The innermost handler returns. -/
def sigreturn (signals : Signals Signal Handler) : Signals Signal Handler :=
  match signals.running with
  | [] => signals
  | frame :: rest => { signals with blocked := frame.mask, running := rest }

/-- The mask when all these handlers have returned. -/
def outermost (blocked : Signal → Bool) :
    List (Frame Signal Handler) → Signal → Bool
  | [] => blocked
  | frame :: rest => outermost frame.mask rest

/-- The mask of the program itself. -/
def programMask (signals : Signals Signal Handler) : Signal → Bool :=
  outermost signals.blocked signals.running

@[simp]
theorem disposition_sigaction_self (signals : Signals Signal Handler)
    (signal : Signal) (disposition : Disposition Handler) :
    (signals.sigaction signal disposition).disposition signal = disposition :=
  Function.update_self ..

@[simp]
theorem blocked_block_self (signals : Signals Signal Handler)
    (signal : Signal) : (signals.block signal).blocked signal = true :=
  Function.update_self ..

@[simp]
theorem blocked_unblock_self (signals : Signals Signal Handler)
    (signal : Signal) : (signals.unblock signal).blocked signal = false :=
  Function.update_self ..

/-- No other signal is discarded. -/
theorem pending_sigaction_of_ne {disposition : Disposition Handler}
    (different : other ≠ signal) :
    (signals.sigaction signal disposition).pending other =
      signals.pending other := by
  cases disposition with
  | ignore => exact Function.update_of_ne different ..
  | _ => rfl

theorem pending_sigaction_eq_false {disposition : Disposition Handler}
    (none : signals.pending other = false) :
    (signals.sigaction signal disposition).pending other = false := by
  by_cases same : other = signal
  · subst same
    cases disposition with
    | ignore => exact Function.update_self ..
    | _ => exact none
  · exact (pending_sigaction_of_ne same).trans none

/-- The masks to come back are those the handlers were entered with. -/
def Nested (blocked : Signal → Bool) : List (Frame Signal Handler) → Prop
  | [] => True
  | frame :: rest =>
      blocked = Function.update frame.mask frame.signal true ∧
        Nested frame.mask rest

/-- No handler changes the mask. -/
def WellNested (signals : Signals Signal Handler) : Prop :=
  Nested signals.blocked signals.running

omit [DecidableEq Signal] in
theorem programMask_eq_blocked (outside : signals.running = []) :
    signals.programMask = signals.blocked := by
  rw [programMask, outside]
  rfl

theorem wellNested_of_running_eq_nil (outside : signals.running = []) :
    signals.WellNested := by
  rw [WellNested, outside]
  trivial

theorem Nested.blocked {blocked : Signal → Bool}
    {running : List (Frame Signal Handler)} (nested : Nested blocked running)
    (masked : outermost blocked running signal = true) :
    blocked signal = true := by
  induction running generalizing blocked with
  | nil => exact masked
  | cons frame rest inductionHypothesis =>
      obtain ⟨same, deeper⟩ := nested
      rw [same]
      by_cases own : signal = frame.signal
      · rw [own, Function.update_self]
      · rw [Function.update_of_ne own]
        exact inductionHypothesis deeper masked

/-- What the program blocks is blocked in its handlers too. -/
theorem WellNested.blocked (nested : signals.WellNested)
    (masked : signals.programMask signal = true) :
    signals.blocked signal = true :=
  Nested.blocked nested masked

section Generate

variable (keeps : Bool) (signals : Signals Signal Handler) (signal : Signal)

theorem generate_eq : ∃ pending, signals.generate keeps signal =
    { signals with pending } := by
  unfold generate
  split
  · exact ⟨_, rfl⟩
  · exact ⟨_, rfl⟩

@[simp]
theorem disposition_generate :
    (signals.generate keeps signal).disposition = signals.disposition := by
  obtain ⟨_, same⟩ := signals.generate_eq keeps signal
  rw [same]

@[simp]
theorem blocked_generate :
    (signals.generate keeps signal).blocked = signals.blocked := by
  obtain ⟨_, same⟩ := signals.generate_eq keeps signal
  rw [same]

@[simp]
theorem running_generate :
    (signals.generate keeps signal).running = signals.running := by
  obtain ⟨_, same⟩ := signals.generate_eq keeps signal
  rw [same]

@[simp]
theorem programMask_generate :
    (signals.generate keeps signal).programMask = signals.programMask := by
  rw [programMask, programMask, running_generate, blocked_generate]

theorem wellNested_generate_iff :
    (signals.generate keeps signal).WellNested ↔ signals.WellNested := by
  rw [WellNested, WellNested, running_generate, blocked_generate]

/-- What is pending stays so. -/
theorem pending_generate {other : Signal} (before : signals.pending other) :
    (signals.generate keeps signal).pending other := by
  unfold generate
  split
  · exact before
  · by_cases same : other = signal
    · subst same
      exact Function.update_self ..
    · exact (Function.update_of_ne same ..).trans before

theorem pending_generate_of_ne {other : Signal} (different : other ≠ signal) :
    (signals.generate keeps signal).pending other = signals.pending other := by
  unfold generate
  split
  · rfl
  · exact Function.update_of_ne different ..

/-- A signal that is not ignored becomes pending. -/
theorem pending_generate_self
    (heeded : signals.disposition signal ≠ .ignore) :
    (signals.generate keeps signal).pending signal := by
  have kept : signals.discards keeps signal = false := by
    unfold discards
    split
    · exact absurd ‹_› heeded
    · rfl
  rw [generate, if_neg (by simp [kept])]
  exact Function.update_self ..

end Generate

section Deliver

variable {delivery : Delivery Handler} {frame : Frame Signal Handler}
  {rest : List (Frame Signal Handler)}

theorem programMask_enter (signal : Signal) (handler : Handler) :
    (signals.enter signal handler).programMask = signals.programMask := rfl

theorem WellNested.enter (nested : signals.WellNested) (signal : Signal)
    (handler : Handler) : (signals.enter signal handler).WellNested :=
  ⟨rfl, nested⟩

/-- What a delivery can do. -/
theorem deliver_eq_some_iff :
    signals.deliver signal = some (next, delivery) ↔
      signals.Deliverable signal ∧
        match signals.disposition signal with
        | .default => next = signals.clear signal ∧ delivery = .terminated
        | .ignore => next = signals.clear signal ∧ delivery = .discarded
        | .handle handler =>
            next = (signals.clear signal).enter signal handler ∧
              delivery = .entered handler := by
  unfold deliver
  by_cases deliverable : signals.Deliverable signal
  · rw [if_pos deliverable]
    cases signals.disposition signal <;>
      simp [deliverable, eq_comm]
  · simp [deliverable]

/-- A delivery takes the signal off, and enters at most one handler. -/
theorem pending_deliver
    (taken : signals.deliver signal = some (next, delivery)) :
    next.pending = Function.update signals.pending signal false ∧
      next.running.length ≤ signals.running.length + 1 := by
  obtain ⟨_, what⟩ := deliver_eq_some_iff.mp taken
  split at what
  · obtain ⟨rfl, _⟩ := what
    exact ⟨rfl, Nat.le_succ _⟩
  · obtain ⟨rfl, _⟩ := what
    exact ⟨rfl, Nat.le_succ _⟩
  · obtain ⟨rfl, _⟩ := what
    exact ⟨rfl, Nat.le_refl _⟩

theorem WellNested.deliver (nested : signals.WellNested)
    (taken : signals.deliver signal = some (next, delivery)) :
    next.WellNested ∧ next.programMask = signals.programMask ∧
      next.disposition = signals.disposition := by
  obtain ⟨_, what⟩ := deliver_eq_some_iff.mp taken
  split at what
  · obtain ⟨rfl, _⟩ := what
    exact ⟨nested, rfl, rfl⟩
  · obtain ⟨rfl, _⟩ := what
    exact ⟨nested, rfl, rfl⟩
  · obtain ⟨rfl, _⟩ := what
    have cleared : (signals.clear signal).WellNested := nested
    exact ⟨cleared.enter .., programMask_enter .., rfl⟩

omit [DecidableEq Signal] in
theorem sigreturn_eq (inside : signals.running = frame :: rest) :
    signals.sigreturn =
      { signals with blocked := frame.mask, running := rest } := by
  rw [sigreturn, inside]

theorem WellNested.sigreturn (nested : signals.WellNested)
    (inside : signals.running = frame :: rest) :
    signals.sigreturn.WellNested ∧
      signals.sigreturn.programMask = signals.programMask := by
  rw [WellNested, inside] at nested
  rw [sigreturn_eq inside, programMask, programMask, inside]
  exact ⟨nested.2, rfl⟩

end Deliver

end Signals

end SysOp.Foundation
