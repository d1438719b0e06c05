import SysOp.Lab2.Family

/-!
# The child until it knows the mode

Nothing happens to it but the message of its parent, which is pending, is being
handled and has been received.  What comes of the message depends on where it
finds the child.
-/

namespace SysOp.Lab2

open SysOp.Foundation

inductive Message where
  | unsent
  | pending
  | handling
  | received
  deriving DecidableEq

/-- Before `mode_setup`. -/
def Point.early : Point → Bool
  | .executing | .installing | .testingMode | .callingPause | .pausing => true
  | _ => false

/-- After `initialize_usr2_handling`. -/
def Point.installed : Point → Bool
  | .executing | .installing => false
  | _ => true

/-- A child that has not come to `mode_setup`. -/
structure Waits (mode : UInt8) (inherited : Inherited) (message : Message)
    (past : List Event) (process : Process) : Prop where
  early : process.point.early
  silent : past = []
  received : process.receivedMode =
    if message = .received then (mode.toNat : Int) else 0
  value : message ≠ .unsent → process.value = mode.toNat
  running : ∃ mask, process.signals.running =
    if message = .handling then [⟨.SIGUSR2, .usr2, mask⟩] else []
  pending : ∀ signal, process.signals.pending signal =
    (decide (message = .pending) && decide (signal = .SIGUSR2))
  disposition : process.signals.disposition .SIGUSR1 = inherited.disposition
  installed : process.signals.disposition .SIGUSR2 =
    if process.point.installed then .handle .usr2 else .default
  killable : process.signals.disposition .SIGKILL = .default
  masked : process.signals.programMask .SIGUSR1 = inherited.blocked
  unmasked : ∀ signal, signal ≠ .SIGUSR1 →
    process.signals.programMask signal = false
  handled : message = .handling ∨ message = .received →
    process.point.installed

section Moves

variable {keeps : Bool} {setup : Setup} {mode : UInt8} {inherited : Inherited}
  {message : Message} {process next : Process} {events past : List Event}

theorem Waits.going (waits : Waits mode inherited message past process) :
    process.point.ended = false := by
  have early := waits.early
  cases here : process.point <;> rw [here] at early <;>
    first | rfl | cases early

/-- Only the message can be delivered. -/
theorem Waits.deliverable {signal : Signal}
    (waits : Waits mode inherited message past process)
    (deliverable : process.signals.Deliverable signal) :
    message = .pending ∧ signal = .SIGUSR2 := by
  have pending := deliverable.1
  rw [waits.pending, Bool.and_eq_true, decide_eq_true_iff,
    decide_eq_true_iff] at pending
  exact pending

theorem Waits.outside (waits : Waits mode inherited message past process)
    (unhandled : message ≠ .handling) : process.signals.running = [] := by
  obtain ⟨mask, running⟩ := waits.running
  rw [running, if_neg unhandled]

theorem Waits.ready (waits : Waits mode inherited message past process)
    (settled : message ≠ .pending) : process.Ready :=
  fun _ deliverable => settled (waits.deliverable deliverable).1

theorem child_waits : Waits mode inherited .unsent [] inherited.child where
  early := rfl
  silent := rfl
  received := rfl
  value := fun sent => absurd rfl sent
  running := ⟨fun _ => false, rfl⟩
  pending := fun _ => rfl
  disposition := rfl
  installed := rfl
  killable := rfl
  masked := rfl
  unmasked := by
    intro signal other
    exact Bool.and_eq_false_imp.mpr fun same =>
      absurd (of_decide_eq_true same) other
  handled := by
    rintro (absurdity | absurdity) <;> cases absurdity

/-- The parent sends the message. -/
theorem Waits.sigqueue (waits : Waits mode inherited .unsent past process) :
    Waits mode inherited .pending past
      (process.sigqueue keeps .SIGUSR2 mode) := by
  have going := waits.going
  have heeded : process.signals.disposition .SIGUSR2 ≠ .ignore := by
    rw [waits.installed]
    split <;> rintro ⟨⟩
  have same : process.sigqueue keeps .SIGUSR2 mode =
      { process.receive keeps .SIGUSR2 with value := mode.toNat } := by
    rw [Process.sigqueue, Process.sent, if_neg (Bool.eq_false_iff.mp going)]
  rw [same]
  refine ⟨waits.early, waits.silent, waits.received, fun _ => rfl, ?_, ?_, ?_,
    ?_, ?_, ?_, ?_, ?_⟩
  · simp only [Process.receive, Signals.running_generate]
    exact waits.running
  · intro signal
    by_cases own : signal = .SIGUSR2
    · subst own
      exact Signals.pending_generate_self _ _ _ heeded
    · simp only [Process.receive]
      rw [Signals.pending_generate_of_ne _ _ _ own, waits.pending,
        decide_eq_false own, Bool.and_false, Bool.and_false]
  · simp only [Process.receive, Signals.disposition_generate]
    exact waits.disposition
  · simp only [Process.receive, Signals.disposition_generate]
    exact waits.installed
  · simp only [Process.receive, Signals.disposition_generate]
    exact waits.killable
  · simp only [Process.receive, Signals.programMask_generate]
    exact waits.masked
  · simp only [Process.receive, Signals.programMask_generate]
    exact waits.unmasked
  · rintro (absurdity | absurdity) <;> cases absurdity

theorem Waits.goTo {point : Point}
    (waits : Waits mode inherited message past process) (early : point.early)
    (installed : point.installed = process.point.installed) :
    Waits mode inherited message past (process.goTo point) where
  early := early
  silent := waits.silent
  received := waits.received
  value := waits.value
  running := waits.running
  pending := waits.pending
  disposition := waits.disposition
  installed := by
    rw [Process.goTo, installed]
    exact waits.installed
  killable := waits.killable
  masked := waits.masked
  unmasked := waits.unmasked
  handled := by
    rw [Process.goTo, installed]
    exact waits.handled

/-- A child that has not been told anything comes no further than `pause`. -/
theorem Waits.unsent (waits : Waits mode inherited .unsent past process)
    (move : Move keeps setup process next events) :
    events = [] ∧ Waits mode inherited .unsent past next := by
  have early := waits.early
  cases move with
  | main _ _ move =>
      cases move with
      | exec here => exact ⟨rfl, waits.goTo rfl (by rw [here]; rfl)⟩
      | install here =>
          exact ⟨rfl, rfl, waits.silent, waits.received, waits.value,
            waits.running, waits.pending, waits.disposition,
            Signals.disposition_sigaction_self .., waits.killable,
            waits.masked, waits.unmasked, fun _ => rfl⟩
      | testMode here =>
          rw [waits.received]
          exact ⟨rfl, waits.goTo rfl (by rw [here]; rfl)⟩
      | pause here => exact ⟨rfl, waits.goTo rfl (by rw [here]; rfl)⟩
      | _ here =>
          rw [here] at early
          cases early
  | handle _ inside =>
      rw [waits.outside (by decide)] at inside
      cases inside
  | terminate _ delivered | deliver _ delivered =>
      obtain ⟨deliverable, _⟩ := Signals.deliver_eq_some_iff.mp delivered
      cases (waits.deliverable deliverable).1

theorem Waits.due (waits : Waits mode inherited .pending past process) :
    process.signals.Deliverable .SIGUSR2 := by
  refine ⟨waits.pending .SIGUSR2, ?_⟩
  rw [← Signals.programMask_eq_blocked (waits.outside (by decide))]
  exact waits.unmasked .SIGUSR2 (by decide)

/-- The message comes first, and terminates a child without a handler. -/
theorem Waits.pending_move (waits : Waits mode inherited .pending past process)
    (move : Move keeps setup process next events) :
    process.point.installed = false ∧ events = [.killed .SIGUSR2] ∧
        next.point = .killed .SIGUSR2 ∨
      process.point.installed ∧ events = [] ∧ next.point = process.point ∧
        Waits mode inherited .handling past next := by
  have what := waits.installed
  cases move with
  | main ready => exact absurd waits.due (ready .SIGUSR2)
  | handle _ inside =>
      rw [waits.outside (by decide)] at inside
      cases inside
  | terminate _ delivered =>
      obtain ⟨deliverable, result⟩ := Signals.deliver_eq_some_iff.mp delivered
      obtain ⟨_, rfl⟩ := waits.deliverable deliverable
      left
      cases installed : process.point.installed with
      | false => exact ⟨rfl, rfl, rfl⟩
      | true =>
          rw [what, installed] at result
          cases result.2
  | deliver _ delivered spared =>
      obtain ⟨deliverable, result⟩ := Signals.deliver_eq_some_iff.mp delivered
      obtain ⟨_, rfl⟩ := waits.deliverable deliverable
      right
      cases installed : process.point.installed with
      | false =>
          rw [what, installed] at spared
          exact absurd rfl spared
      | true =>
          rw [what, installed] at result
          obtain ⟨rfl, _⟩ := result
          have outside := waits.outside (by decide)
          refine ⟨rfl, rfl, rfl, waits.early, waits.silent, waits.received,
            fun _ => waits.value (by decide), ⟨process.signals.blocked, ?_⟩, ?_,
            waits.disposition, waits.installed, waits.killable, waits.masked,
            waits.unmasked, fun _ => installed⟩
          · simp [Signals.enter, Signals.clear, Signals.block, outside]
          · intro signal
            by_cases own : signal = .SIGUSR2
            · rw [own]
              exact Function.update_self .SIGUSR2 false process.signals.pending
            · refine (Function.update_of_ne own ..).trans ?_
              rw [waits.pending, decide_eq_false own]
              rfl

/-- `usr2_handler` stores the mode, and `pause` returns. -/
theorem Waits.handling_move
    (waits : Waits mode inherited .handling past process)
    (move : Move keeps setup process next events) :
    events = [] ∧ Waits mode inherited .received past next ∧
      next.point =
        if process.point = .pausing then .testingMode else process.point := by
  obtain ⟨mask, running⟩ := waits.running
  rw [if_pos rfl] at running
  cases move with
  | main _ outside =>
      rw [running] at outside
      cases outside
  | handle _ inside =>
      rw [running] at inside
      cases inside
      have back : process.signals.sigreturn =
          { process.signals with blocked := mask, running := [] } :=
        Signals.sigreturn_eq running
      have program : process.signals.programMask = mask := by
        rw [Signals.programMask, running]
        rfl
      have point : process.resumed =
          if process.point = .pausing then .testingMode else process.point := by
        rw [Process.resumed, back]
        simp only [and_true]
      have early : process.resumed.early := by
        rw [point]
        split
        · rfl
        · exact waits.early
      have installed : process.resumed.installed := by
        rw [point]
        split
        · rfl
        · exact waits.handled (.inl rfl)
      have same : (process.handlerStep ⟨.SIGUSR2, .usr2, mask⟩).1 =
          { process with
            signals := { process.signals with blocked := mask, running := [] }
            point := process.resumed
            receivedMode := process.value } := by
        rw [Process.handlerStep, back]
      rw [same]
      exact ⟨rfl, {
        early := early
        silent := waits.silent
        received := waits.value (by decide)
        value := fun _ => waits.value (by decide)
        running := ⟨mask, rfl⟩
        pending := waits.pending
        disposition := waits.disposition
        installed := by
          rw [installed, waits.installed, waits.handled (.inl rfl)]
        killable := waits.killable
        masked := program ▸ waits.masked
        unmasked := program ▸ waits.unmasked
        handled := fun _ => installed }, point⟩
  | terminate _ delivered | deliver _ delivered =>
      obtain ⟨deliverable, _⟩ := Signals.deliver_eq_some_iff.mp delivered
      cases (waits.deliverable deliverable).1

/-- A child that knows the mode leaves the loop around `pause`, unless it was
about to call it. -/
theorem Waits.received_move
    (waits : Waits mode inherited .received past process)
    (isMode : IsMode mode) (move : Move keeps setup process next events) :
    events = [] ∧
      (process.point = .testingMode ∧ Begins mode inherited past next ∧
          next.signals.pending .SIGUSR1 = false ∨
        process.point = .callingPause ∧ next.point = .pausing ∧
          Waits mode inherited .received past next) := by
  have early := waits.early
  have installed := waits.handled (.inr rfl)
  have outside := waits.outside (by decide)
  cases move with
  | main _ _ move =>
      cases move with
      | exec here | install here =>
          rw [here] at installed
          cases installed
      | testMode here =>
          have told : process.receivedMode = mode.toNat := waits.received
          have blocked := waits.masked
          rw [Signals.programMask_eq_blocked outside] at blocked
          have known : process.receivedMode ≠ 0 := by
            rw [told]
            exact Nat.cast_ne_zero.mpr isMode.ne_zero
          rw [if_neg known]
          refine ⟨rfl, .inl ⟨here, ⟨⟨rfl, outside, ?_, ?_⟩, told,
            waits.disposition, blocked⟩, waits.pending .SIGUSR1⟩⟩
          · exact fun signal _ => waits.pending signal
          · rw [waits.silent]
            rfl
      | pause here =>
          exact ⟨rfl, .inr ⟨here, rfl, waits.goTo rfl (by rw [here]; rfl)⟩⟩
      | _ here =>
          rw [here] at early
          cases early
  | handle _ inside =>
      rw [outside] at inside
      cases inside
  | terminate _ delivered | deliver _ delivered =>
      obtain ⟨deliverable, _⟩ := Signals.deliver_eq_some_iff.mp delivered
      cases (waits.deliverable deliverable).1

end Moves

end SysOp.Lab2
