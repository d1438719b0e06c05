import SysOp.Lab1.Zad1.Moves
import Mathlib.Data.List.Perm.Basic

/-!
# `main.c`: children with a memory of their own

A child takes along what is pending in the stream of its parent, and `_exit`
throws away what is pending then.  So the lines of the children get out when
the stream passes on each line, and are lost when it waits for a full buffer.
-/

namespace SysOp.Lab1.Zad1.Fork

open SysOp.Foundation

structure Child where
  pid : Int
  memory : Memory
  point : ChildPoint

/-- `output` is where the streams of all processes lead to. -/
structure State where
  output : Bytes
  parent : Parent
  children : List Child

namespace State

/-- No other process has this number. -/
def Unused (state : State) (pid : Int) : Prop :=
  pid ≠ state.parent.pid ∧
    ∀ child ∈ state.children, child.pid = pid → child.point = .reaped

instance (state : State) (pid : Int) : Decidable (state.Unused pid) :=
  inferInstanceAs (Decidable (_ ∧ _))

/-- There is nobody to wait for. -/
def idle (state : State) : Bool :=
  state.children.all (·.point = .reaped)

end State

def forkStep (N : Int) (pid : Option Int) (state : State) : Option State :=
  match state.parent.point with
  | .forking i =>
      let parent := { state.parent with point := .forking (i + 1) }
      if (i : Int) < N ∧ (i : Int) + 1 ≤ INT_MAX then
        match pid with
        | none => some { state with parent }
        | some pid =>
            if 0 < pid ∧ pid ≤ INT_MAX ∧ state.Unused pid then
              some { state with
                parent
                children := state.children ++
                  [⟨pid, state.parent.memory, .incrementing⟩] }
            else none
      else none
  | _ => none

def waitStep (N : Int) (index : Nat) (state : State) : Option State :=
  match state.parent.point, state.children[index]? with
  | .waiting i, some child =>
      if (i : Int) < N ∧ child.point = .zombie then
        some { state with
          parent := { state.parent with point := .waiting (i + 1) }
          children := state.children.set index
            { child with point := .reaped } }
      else none
  | _, _ => none

def step (argv : List Bytes) (M : Nat) (buffering : Buffering)
    (state : State) : Action → Option (State × List Event)
  | .parent early =>
      (parentStep argv buffering early state.idle state.output
        state.parent).map fun (output, parent) =>
          ({ state with output, parent }, [])
  | .fork pid =>
      (forkStep ((arguments argv).2.getD 0) pid state).map (·, [])
  | .wait index =>
      (waitStep ((arguments argv).2.getD 0) index state).map (·, [])
  | .child index early =>
      (moveAt state.children index fun child =>
        (childStep M buffering early child.pid state.output child.memory
          child.point).map fun (output, memory, point, events) =>
            (output, { child with memory, point }, events)).map
        fun (output, children, events) =>
          ({ state with output, children }, events)

def initial (pid : Int) : State where
  output := []
  parent := initialParent pid
  children := []

def main (argv : List Bytes) (M : Nat) (buffering : Buffering) (pid : Int) :
    Machine State Action Event where
  start := initial pid
  step := step argv M buffering

inductive Move (argv : List Bytes) (M : Nat) (buffering : Buffering)
    (state : State) : State → List Event → Prop where
  | parent {output : Bytes} {parent : Parent}
      (moved : ParentMove argv buffering state.idle state.output state.parent
        output parent) :
      Move argv M buffering state { state with output, parent } []
  | failed {i : Nat} (here : state.parent.point = .forking i)
      (more : (i : Int) < (arguments argv).2.getD 0) :
      Move argv M buffering state { state with
        parent := { state.parent with point := .forking (i + 1) } } []
  | fork {i : Nat} {pid : Int} (here : state.parent.point = .forking i)
      (more : (i : Int) < (arguments argv).2.getD 0)
      (positive : 0 < pid) (small : pid ≤ INT_MAX) :
      Move argv M buffering state { state with
        parent := { state.parent with point := .forking (i + 1) }
        children := state.children ++
          [⟨pid, state.parent.memory, .incrementing⟩] } []
  | reap {i index : Nat} {child : Child}
      (here : state.parent.point = .waiting i)
      (more : (i : Int) < (arguments argv).2.getD 0)
      (found : state.children[index]? = some child)
      (exited : child.point = .zombie) :
      Move argv M buffering state { state with
        parent := { state.parent with point := .waiting (i + 1) }
        children := state.children.set index { child with point := .reaped } }
        []
  | child {index : Nat} {child : Child} {output : Bytes} {memory : Memory}
      {point : ChildPoint} {events : List Event}
      (found : state.children[index]? = some child)
      (moved : ChildMove M buffering child.pid state.output child.memory
        child.point output memory point events) :
      Move argv M buffering state { state with
        output
        children := state.children.set index { child with memory, point } }
        events

theorem step_move {argv : List Bytes} {M : Nat} {buffering : Buffering}
    {state next : State} {action : Action} {events : List Event}
    (taken : step argv M buffering state action = some (next, events)) :
    Move argv M buffering state next events := by
  cases action with
  | parent early =>
      simp only [step, Option.map_eq_some_iff, Prod.exists,
        Prod.mk.injEq] at taken
      obtain ⟨output, parent, moved, rfl, rfl⟩ := taken
      exact .parent (parentStep_move moved)
  | fork pid =>
      simp only [step, Option.map_eq_some_iff, Prod.mk.injEq] at taken
      obtain ⟨_, moved, rfl, rfl⟩ := taken
      unfold forkStep at moved
      split at moved
      next i here =>
        dsimp only at moved
        split at moved
        next more =>
          split at moved
          next =>
            cases moved
            exact .failed here more.1
          next pid =>
            split at moved
            next unused =>
              cases moved
              exact .fork here more.1 unused.1 unused.2.1
            next => cases moved
        next => cases moved
      next => cases moved
  | wait index =>
      simp only [step, Option.map_eq_some_iff, Prod.mk.injEq] at taken
      obtain ⟨_, moved, rfl, rfl⟩ := taken
      unfold waitStep at moved
      split at moved
      next i child here found =>
        split at moved
        next both =>
          cases moved
          exact .reap here both.1 found both.2
        next => cases moved
      next => cases moved
  | child index early =>
      simp only [step, Option.map_eq_some_iff, Prod.exists, Prod.mk.injEq,
        moveAt_eq_some_iff] at taken
      obtain ⟨output, _, _, ⟨child, after, found, ⟨_, memory, point, _, moved,
        rfl, rfl, rfl⟩, rfl⟩, rfl, rfl⟩ := taken
      exact .child found (childStep_move moved)

/-- The children that the parent has not waited for yet, at most. -/
def unreapedAt (n : Nat) : ParentPoint → Nat
  | .forking i => i
  | .waiting i => n - i
  | _ => 0

/-- Where no child has been forked. -/
def isAlone : ParentPoint → Bool
  | .parsing | .exiting (_ + 1) | .returned (_ + 1) => true
  | _ => false

def Child.unreaped (child : Child) : Nat :=
  if child.point = .reaped then 0 else 1

/-- The lines of a child so far. -/
def Child.printed (M : Nat) (child : Child) : List Event :=
  List.replicate (child.point.lines M) child.pid

structure Consistent (argv : List Bytes) (M : Nat) (past : List Event)
    (state : State) : Prop where
  forked : ∀ i, state.parent.point = .forking i →
    i ≤ ((arguments argv).2.getD 0).toNat
  unreaped : census Child.unreaped state.children ≤
    unreapedAt ((arguments argv).2.getD 0).toNat state.parent.point
  alone : isAlone state.parent.point → state.children = []
  counted : ∀ child ∈ state.children, child.point.Counted M
  pids : ∀ child ∈ state.children, IsInt child.pid
  lines : past.Perm (state.children.flatMap (Child.printed M))
  own : state.parent.memory.zmiennaGlobalna = 1

section Consistency

variable {argv : List Bytes} {M : Nat} {buffering : Buffering}
  {past events : List Event} {state next : State}

theorem census_of_idle (idle : state.idle = true) :
    census Child.unreaped state.children = 0 := by
  rw [census_eq_zero_iff]
  intro child member
  have reaped := List.all_eq_true.mp idle child member
  exact if_pos (of_decide_eq_true reaped)

theorem ChildMove.unreaped {pid : Int} {output later : Bytes}
    {memory after : Memory} {point next : ChildPoint}
    (move : ChildMove M buffering pid output memory point later after next
      events) : point ≠ .reaped ∧ next ≠ .reaped := by
  cases move <;> exact ⟨by simp, by simp⟩

theorem ParentMove.consistent {output : Bytes} {parent : Parent}
    (moved : ParentMove argv buffering state.idle state.output state.parent
      output parent)
    (consistent : Consistent argv M past state) :
    Consistent argv M past { state with output, parent } := by
  obtain ⟨forked, unreaped, alone, counted, pids, lines, own⟩ := consistent
  cases moved with
  | parse here =>
      rw [here] at unreaped alone
      have nobody := alone rfl
      refine ⟨?_, ?_, fun _ => nobody, counted, pids, lines, own⟩
      · intro i point
        dsimp only at point
        split at point <;> cases point
        exact Nat.zero_le _
      · exact unreaped.trans (Nat.zero_le _)
  | @forked i here all =>
      rw [here] at unreaped
      refine ⟨?_, ?_, ?_, counted, pids, lines, own⟩
      · intro i point
        cases point
      · exact unreaped.trans (forked i here)
      · intro apart
        cases apart
  | nobody here more idle =>
      refine ⟨?_, ?_, ?_, counted, pids, lines, own⟩
      · intro i point
        cases point
      · rw [census_of_idle idle]
        exact Nat.zero_le _
      · intro apart
        cases apart
  | waited here all =>
      rw [here, unreapedAt] at unreaped
      refine ⟨?_, ?_, ?_, counted, pids, lines, own⟩
      · intro i point
        cases point
      · rwa [Nat.sub_eq_zero_of_le (Int.toNat_le.mpr all)] at unreaped
      · intro apart
        cases apart
  | print here =>
      rw [here] at unreaped
      refine ⟨?_, unreaped, ?_, counted, pids, lines, own⟩
      · intro i point
        cases point
      · intro apart
        cases apart
  | @exit code here =>
      rw [here] at unreaped alone
      refine ⟨?_, unreaped, ?_, counted, pids, lines, own⟩
      · intro i point
        cases point
      · intro apart
        cases code with
        | zero => cases apart
        | succ => exact alone rfl

theorem Consistent.fork {i : Nat} {pid : Int}
    (consistent : Consistent argv M past state)
    (here : state.parent.point = .forking i)
    (more : (i : Int) < (arguments argv).2.getD 0)
    (positive : 0 < pid) (small : pid ≤ INT_MAX) :
    Consistent argv M past
      { state with
        parent := { state.parent with point := .forking (i + 1) }
        children := state.children ++
          [⟨pid, state.parent.memory, .incrementing⟩] } := by
  obtain ⟨_, unreaped, _, counted, pids, lines, own⟩ := consistent
  rw [here] at unreaped
  refine ⟨?_, ?_, nofun, ?_, ?_, ?_, own⟩
  · intro j point
    cases point
    exact Int.lt_toNat.mpr more
  · rw [census_append_singleton]
    exact Nat.succ_le_succ unreaped
  · intro child member
    rcases List.mem_append.mp member with old | new
    · exact counted child old
    · rw [List.mem_singleton.mp new]
      trivial
  · intro child member
    rcases List.mem_append.mp member with old | new
    · exact pids child old
    · rw [List.mem_singleton.mp new]
      exact ⟨le_trans (by decide) (Int.le_of_lt positive), small⟩
  · rw [List.flatMap_append]
    exact lines.trans (.of_eq (List.append_nil _).symm)

theorem Consistent.reap {i index : Nat} {child : Child}
    (consistent : Consistent argv M past state)
    (here : state.parent.point = .waiting i)
    (found : state.children[index]? = some child)
    (exited : child.point = .zombie) :
    Consistent argv M past
      { state with
        parent := { state.parent with point := .waiting (i + 1) }
        children :=
          state.children.set index { child with point := .reaped } } := by
  obtain ⟨_, unreaped, _, counted, pids, lines, own⟩ := consistent
  rw [here, unreapedAt] at unreaped
  have weighed := census_set Child.unreaped found
    { child with point := .reaped }
  have same : Child.printed M { child with point := .reaped } =
      Child.printed M child ++ [] := by
    rw [List.append_nil, Child.printed, Child.printed, exited]
    rfl
  have shown := flatMap_set_perm found same
  rw [List.append_nil] at shown
  refine ⟨nofun, ?_, nofun, ?_, ?_, lines.trans shown.symm, own⟩
  · simp only [Child.unreaped, exited] at weighed
    simp only [unreapedAt]
    simp at weighed
    omega
  · intro other member
    rcases List.mem_or_eq_of_mem_set member with old | rfl
    · exact counted other old
    · trivial
  · intro other member
    rcases List.mem_or_eq_of_mem_set member with old | rfl
    · exact pids other old
    · exact pids child (List.mem_of_getElem? found)

theorem Consistent.child {index : Nat} {child : Child} {output : Bytes}
    {memory : Memory} {point : ChildPoint}
    (consistent : Consistent argv M past state)
    (found : state.children[index]? = some child)
    (moved : ChildMove M buffering child.pid state.output child.memory
      child.point output memory point events) :
    Consistent argv M (past ++ events)
      { state with
        output
        children := state.children.set index { child with memory, point } } := by
  obtain ⟨forked, unreaped, alone, counted, pids, lines, own⟩ := consistent
  have member := List.mem_of_getElem? found
  obtain ⟨alive, still⟩ := ChildMove.unreaped moved
  obtain ⟨within, more⟩ := moved.counted (counted child member)
  refine ⟨forked, ?_, ?_, ?_, ?_, ?_, own⟩
  · have weighed := census_set Child.unreaped found
      { child with memory, point }
    rw [Child.unreaped, Child.unreaped, if_neg alive, if_neg still]
      at weighed
    rwa [Nat.add_right_cancel weighed]
  · intro apart
    rw [alone apart] at found
    cases found
  · intro other held
    rcases List.mem_or_eq_of_mem_set held with old | rfl
    · exact counted other old
    · exact within
  · intro other held
    rcases List.mem_or_eq_of_mem_set held with old | rfl
    · exact pids other old
    · exact pids child member
  · exact (lines.append_right events).trans
      (flatMap_set_perm found more).symm

theorem Move.consistent (move : Move argv M buffering state next events)
    (consistent : Consistent argv M past state) :
    Consistent argv M (past ++ events) next := by
  cases move with
  | parent moved =>
      rw [List.append_nil]
      exact ParentMove.consistent moved consistent
  | @failed i here more =>
      obtain ⟨_, unreaped, _, counted, pids, lines, own⟩ := consistent
      rw [here] at unreaped
      rw [List.append_nil]
      refine ⟨?_, unreaped.trans (Nat.le_succ i), nofun, counted, pids, lines,
        own⟩
      intro j point
      cases point
      exact Int.lt_toNat.mpr more
  | fork here more positive small =>
      rw [List.append_nil]
      exact consistent.fork here more positive small
  | reap here _ found exited =>
      rw [List.append_nil]
      exact consistent.reap here found exited
  | child found moved => exact consistent.child found moved

end Consistency

end SysOp.Lab1.Zad1.Fork
