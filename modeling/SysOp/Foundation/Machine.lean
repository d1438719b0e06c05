import Mathlib.Data.List.Basic

/-!
# Machines, runs and acceptors

A machine is a deterministic step function on explicit states; all scheduling
and all input is part of the action.  A run collects the events its steps
emit, so a property of a whole history is a property of a trace.

`RunWithin allowed` restricts every step of a run by a condition on the state
before it and on the action taken; `Run` is the unrestricted case.
-/

namespace SysOp.Foundation

universe u v w

/-- A step may be disabled (`none`), or lead on and emit some events. -/
structure Machine (State : Type u) (Action : Type v) (Event : Type w) where
  start : State
  step : State → Action → Option (State × List Event)

namespace Machine

variable {State : Type u} {Action : Type v} {Event : Type w}

inductive RunWithin (machine : Machine State Action Event)
    (allowed : State → Action → Prop) : State → List Event → State → Prop where
  | refl (state : State) : RunWithin machine allowed state [] state
  | tail {first middle last : State} {action : Action}
      {trace events : List Event} :
      RunWithin machine allowed first trace middle →
      allowed middle action →
      machine.step middle action = some (last, events) →
      RunWithin machine allowed first (trace ++ events) last

/-- Runs with no restriction on their steps. -/
abbrev Run (machine : Machine State Action Event) :
    State → List Event → State → Prop :=
  machine.RunWithin fun _ _ => True

variable {machine : Machine State Action Event}
  {allowed : State → Action → Prop}

theorem RunWithin.run {first last : State} {trace : List Event}
    (steps : machine.RunWithin allowed first trace last) :
    machine.Run first trace last := by
  induction steps with
  | refl => exact .refl _
  | tail _ _ taken inductionHypothesis =>
      exact .tail inductionHypothesis trivial taken

theorem RunWithin.append {first middle last : State}
    {earlier later : List Event}
    (before : machine.RunWithin allowed first earlier middle)
    (after : machine.RunWithin allowed middle later last) :
    machine.RunWithin allowed first (earlier ++ later) last := by
  induction after with
  | refl => simpa using before
  | tail _ permitted taken inductionHypothesis =>
      rw [← List.append_assoc]
      exact .tail inductionHypothesis permitted taken

/-- The invariant rule, for a property of the history so far together with
the state it leads to. -/
theorem RunWithin.history {first last : State} {trace : List Event}
    (steps : machine.RunWithin allowed first trace last)
    (invariant : List Event → State → Prop)
    (initially : invariant [] first)
    (preserved : ∀ {past state action next events},
      invariant past state → allowed state action →
      machine.step state action = some (next, events) →
      invariant (past ++ events) next) :
    invariant trace last := by
  induction steps with
  | refl => exact initially
  | tail _ permitted taken inductionHypothesis =>
      exact preserved inductionHypothesis permitted taken

/-- The invariant rule for a property of states alone. -/
theorem RunWithin.invariant {first last : State} {trace : List Event}
    (steps : machine.RunWithin allowed first trace last)
    (holds : State → Prop) (initially : holds first)
    (preserved : ∀ {state action next events},
      holds state → allowed state action →
      machine.step state action = some (next, events) → holds next) :
    holds last :=
  steps.history (fun _ state => holds state) initially
    fun held permitted taken => preserved held permitted taken

/-- Execute a schedule, refusing steps that are disabled or not allowed. -/
def execute (machine : Machine State Action Event)
    (allowed : State → Action → Prop)
    [∀ state action, Decidable (allowed state action)] :
    State → List Action → Option (State × List Event)
  | state, [] => some (state, [])
  | state, action :: rest =>
      if allowed state action then
        match machine.step state action with
        | none => none
        | some (next, events) =>
            match execute machine allowed next rest with
            | none => none
            | some (last, trace) => some (last, events ++ trace)
      else
        none

theorem execute_runWithin
    [∀ state action, Decidable (allowed state action)]
    {schedule : List Action} {first last : State} {trace : List Event}
    (executed : machine.execute allowed first schedule = some (last, trace)) :
    machine.RunWithin allowed first trace last := by
  induction schedule generalizing first trace with
  | nil =>
      simp only [execute, Option.some.injEq, Prod.mk.injEq] at executed
      obtain ⟨rfl, rfl⟩ := executed
      exact .refl first
  | cons action rest inductionHypothesis =>
      unfold execute at executed
      split at executed
      next permitted =>
        split at executed
        next => simp at executed
        next next events taken =>
          split at executed
          next => simp at executed
          next final later finished =>
            simp only [Option.some.injEq, Prod.mk.injEq] at executed
            obtain ⟨rfl, rfl⟩ := executed
            have single : machine.RunWithin allowed first events next := by
              simpa using RunWithin.tail (.refl first) permitted taken
            exact single.append (inductionHypothesis finished)
      next refused => simp at executed

/-- The run of a schedule that executes to its end. -/
theorem execute_get_runWithin
    [∀ state action, Decidable (allowed state action)]
    {schedule : List Action} {first : State}
    (executed : (machine.execute allowed first schedule).isSome) :
    machine.RunWithin allowed first
      ((machine.execute allowed first schedule).get executed).2
      ((machine.execute allowed first schedule).get executed).1 :=
  execute_runWithin (Option.some_get executed).symm

end Machine

/-- A deterministic specification of traces: `none` rejects the event. -/
structure Acceptor (State : Type u) (Event : Type v) where
  next : State → Event → Option State

namespace Acceptor

variable {State : Type u} {Event : Type v}

def accept (acceptor : Acceptor State Event) :
    State → List Event → Option State
  | state, [] => some state
  | state, event :: rest =>
      (acceptor.next state event).bind fun middle =>
        acceptor.accept middle rest

@[simp]
theorem accept_nil (acceptor : Acceptor State Event) (state : State) :
    acceptor.accept state [] = some state := rfl

@[simp]
theorem accept_cons (acceptor : Acceptor State Event) (state : State)
    (event : Event) (rest : List Event) :
    acceptor.accept state (event :: rest) =
      (acceptor.next state event).bind fun middle =>
        acceptor.accept middle rest := rfl

theorem accept_append (acceptor : Acceptor State Event) (state : State)
    (earlier later : List Event) :
    acceptor.accept state (earlier ++ later) =
      (acceptor.accept state earlier).bind fun middle =>
        acceptor.accept middle later := by
  induction earlier generalizing state with
  | nil => simp
  | cons event rest inductionHypothesis =>
      simp only [List.cons_append, accept_cons, Option.bind_assoc,
        inductionHypothesis]

end Acceptor

/-- Forward simulation: when every step of the machine is matched by the
acceptor reading the events it emits, every trace of the machine is accepted
and the final states are related. -/
theorem Machine.RunWithin.accepted
    {State Abstract : Type u} {Action : Type v} {Event : Type w}
    {machine : Machine State Action Event}
    {allowed : State → Action → Prop}
    {acceptor : Acceptor Abstract Event} {first last : State}
    {trace : List Event} (steps : machine.RunWithin allowed first trace last)
    (related : State → Abstract → Prop) {start : Abstract}
    (initially : related first start)
    (simulated : ∀ {state action next events abstract},
      related state abstract → allowed state action →
      machine.step state action = some (next, events) →
      ∃ after, acceptor.accept abstract events = some after ∧
        related next after) :
    ∃ final, acceptor.accept start trace = some final ∧ related last final := by
  refine steps.history (fun past state => ∃ final,
    acceptor.accept start past = some final ∧ related state final)
    ⟨start, rfl, initially⟩ ?_
  rintro past state action next events ⟨middle, accepted, held⟩ permitted taken
  rcases simulated held permitted taken with ⟨final, matched, relatedNext⟩
  refine ⟨final, ?_, relatedNext⟩
  rw [Acceptor.accept_append, accepted]
  exact matched

end SysOp.Foundation
