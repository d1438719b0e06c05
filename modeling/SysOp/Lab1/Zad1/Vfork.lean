import SysOp.Lab1.Zad1.Moves

/-!
# `main_vfork.c`: children in the memory of their parent

The parent sleeps while a child runs, so that the children run one after
another.  What a child has printed stays in the buffer of its parent when
`_exit` throws nothing away: every line gets out whatever the stream does, and
the variable has been incremented once for each child.
-/

namespace SysOp.Lab1.Zad1.Vfork

open SysOp.Foundation

/-- `exited` are the children that have called `_exit`, in this order, of which
so many have been waited for; `running` is the child the parent sleeps for. -/
structure State where
  output : Bytes
  parent : Parent
  exited : List Int
  waited : Nat
  running : Option (Int × ChildPoint)

/-- `vfork` returns in the child first; a child that exits wakes the parent. -/
def vforkStep (N : Int) (pid : Option Int) (state : State) : Option State :=
  match state.parent.point, state.running with
  | .forking i, none =>
      let parent := { state.parent with point := .forking (i + 1) }
      if (i : Int) < N ∧ (i : Int) + 1 ≤ INT_MAX then
        match pid with
        | none => some { state with parent }
        | some pid =>
            if 0 < pid ∧ pid ≤ INT_MAX ∧ pid ≠ state.parent.pid ∧
                pid ∉ state.exited then
              some { state with parent, running := some (pid, .incrementing) }
            else none
      else none
  | _, _ => none

def waitStep (N : Int) (state : State) : Option State :=
  match state.parent.point, state.running with
  | .waiting i, none =>
      if (i : Int) < N ∧ state.waited < state.exited.length then
        some { state with
          parent := { state.parent with point := .waiting (i + 1) }
          waited := state.waited + 1 }
      else none
  | _, _ => none

/-- The child works in `parent.memory`. -/
def runningStep (M : Nat) (buffering : Buffering) (early : Nat)
    (state : State) : Option (State × List Event) :=
  state.running.bind fun (pid, point) =>
    (childStep M buffering early pid state.output state.parent.memory
      point).map fun (output, memory, point, events) =>
        let parent := { state.parent with memory }
        match point with
        | .zombie =>
            ({ state with
              output, parent, exited := state.exited ++ [pid]
              running := none }, events)
        | point =>
            ({ state with output, parent, running := some (pid, point) },
              events)

def step (argv : List Bytes) (M : Nat) (buffering : Buffering)
    (state : State) : Action → Option (State × List Event)
  | .parent early =>
      match state.running with
      | some _ => none
      | none =>
          (parentStep argv buffering early
            (state.waited = state.exited.length) state.output
            state.parent).map fun (output, parent) =>
              ({ state with output, parent }, [])
  | .fork pid =>
      (vforkStep ((arguments argv).2.getD 0) pid state).map (·, [])
  | .wait _ => (waitStep ((arguments argv).2.getD 0) state).map (·, [])
  | .child _ early => runningStep M buffering early state

def initial (pid : Int) : State where
  output := []
  parent := initialParent pid
  exited := []
  waited := 0
  running := none

def main (argv : List Bytes) (M : Nat) (buffering : Buffering) (pid : Int) :
    Machine State Action Event where
  start := initial pid
  step := step argv M buffering

/-- The lines of the child that is running. -/
def current (M : Nat) : Option (Int × ChildPoint) → List Event
  | none => []
  | some (pid, point) => List.replicate (point.lines M) pid

/-- Whether the child that is running has incremented the variable. -/
def gained : Option (Int × ChildPoint) → Int
  | none | some (_, .incrementing) => 0
  | some _ => 1

structure Sequential (argv : List Bytes) (M : Nat) (past : List Event)
    (state : State) : Prop where
  text : state.output ++ state.parent.memory.stdout =
    front argv state.parent.point ++ past.flatMap childLine ++
      rear state.parent.pid state.parent.memory.zmiennaGlobalna
        state.parent.point
  lines : past = state.exited.flatMap (List.replicate M) ++
    current M state.running
  incremented : state.parent.memory.zmiennaGlobalna =
    1 + state.exited.length + gained state.running
  counted : ∀ pid point, state.running = some (pid, point) → point.Counted M
  asleep : state.running ≠ none → ∃ i, state.parent.point = .forking i
  alone : state.parent.point = .parsing → state.exited = []
  flushed : ∀ code, state.parent.point = .returned code →
    state.parent.memory.stdout = []

inductive Move (argv : List Bytes) (M : Nat) (buffering : Buffering)
    (state : State) : State → List Event → Prop where
  | parent {idle : Bool} {output : Bytes} {parent : Parent}
      (awake : state.running = none)
      (moved : ParentMove argv buffering idle state.output state.parent output
        parent) :
      Move argv M buffering state { state with output, parent } []
  | failed {i : Nat} (here : state.parent.point = .forking i)
      (awake : state.running = none) :
      Move argv M buffering state { state with
        parent := { state.parent with point := .forking (i + 1) } } []
  | vfork {i : Nat} {pid : Int} (here : state.parent.point = .forking i)
      (awake : state.running = none) :
      Move argv M buffering state { state with
        parent := { state.parent with point := .forking (i + 1) }
        running := some (pid, .incrementing) } []
  | reap {i : Nat} (here : state.parent.point = .waiting i)
      (awake : state.running = none) :
      Move argv M buffering state { state with
        parent := { state.parent with point := .waiting (i + 1) }
        waited := state.waited + 1 } []
  | run {pid : Int} {before point : ChildPoint} {output : Bytes}
      {memory : Memory} {events : List Event}
      (running : state.running = some (pid, before))
      (moved : ChildMove M buffering pid state.output state.parent.memory
        before output memory point events) (goesOn : point ≠ .zombie) :
      Move argv M buffering state { state with
        output
        parent := { state.parent with memory }
        running := some (pid, point) } events
  | wake {pid : Int} {before : ChildPoint} {output : Bytes} {memory : Memory}
      {events : List Event} (running : state.running = some (pid, before))
      (moved : ChildMove M buffering pid state.output state.parent.memory
        before output memory .zombie events) :
      Move argv M buffering state { state with
        output
        parent := { state.parent with memory }
        exited := state.exited ++ [pid]
        running := none } events

section Steps

variable {argv : List Bytes} {M : Nat} {buffering : Buffering}
  {past events : List Event} {state next : State}

theorem step_move {action : Action}
    (taken : step argv M buffering state action = some (next, events)) :
    Move argv M buffering state next events := by
  cases action with
  | parent early =>
      simp only [step] at taken
      split at taken
      · cases taken
      next awake =>
        simp only [Option.map_eq_some_iff, Prod.exists, Prod.mk.injEq] at taken
        obtain ⟨output, parent, moved, rfl, rfl⟩ := taken
        exact .parent awake (parentStep_move moved)
  | fork pid =>
      simp only [step, Option.map_eq_some_iff, Prod.mk.injEq] at taken
      obtain ⟨_, moved, rfl, rfl⟩ := taken
      unfold vforkStep at moved
      split at moved
      next i here awake =>
        dsimp only at moved
        split at moved
        next =>
          split at moved
          next =>
            cases moved
            exact .failed here awake
          next pid =>
            split at moved
            next =>
              cases moved
              exact .vfork here awake
            next => cases moved
        next => cases moved
      next => cases moved
  | wait index =>
      simp only [step, Option.map_eq_some_iff, Prod.mk.injEq] at taken
      obtain ⟨_, moved, rfl, rfl⟩ := taken
      unfold waitStep at moved
      split at moved
      next i here awake =>
        split at moved
        next =>
          cases moved
          exact .reap here awake
        next => cases moved
      next => cases moved
  | child index early =>
      obtain ⟨⟨pid, before⟩, running, taken⟩ :=
        Option.bind_eq_some_iff.mp taken
      simp only [Option.map_eq_some_iff, Prod.exists] at taken
      obtain ⟨output, memory, point, emitted, moved, same⟩ := taken
      split at same
      next =>
        cases same
        exact .wake running (childStep_move moved)
      next goesOn =>
        cases same
        exact .run running (childStep_move moved) goesOn

/-- Nothing that a child prints is lost, as its buffer is that of its
parent. -/
theorem ChildMove.text {pid : Int} {output after : Bytes}
    {memory later : Memory} {point following : ChildPoint}
    (moved : ChildMove M buffering pid output memory point after later
      following events) :
    after ++ later.stdout =
        output ++ memory.stdout ++ events.flatMap childLine ∧
      later.zmiennaGlobalna + gained (some (pid, point)) =
        memory.zmiennaGlobalna + gained (some (pid, following)) := by
  cases moved with
  | increment | more | all | exit => exact ⟨by simp, by simp [gained]⟩
  | print printed =>
      refine ⟨?_, by simp [gained]⟩
      rw [List.append_assoc, Buffering.print_append printed]
      simp

/-- The parent adds its own text before and after that of the children. -/
theorem ParentMove.text {idle : Bool} {output after printed : Bytes}
    {parent later : Parent}
    (moved : ParentMove argv buffering idle output parent after later)
    (silent : parent.point = .parsing → printed = [])
    (text : output ++ parent.memory.stdout = front argv parent.point ++
      printed ++ rear parent.pid parent.memory.zmiennaGlobalna parent.point) :
    after ++ later.memory.stdout = front argv later.point ++ printed ++
      rear later.pid later.memory.zmiennaGlobalna later.point := by
  cases moved with
  | parse here passed =>
      rw [here, silent here] at text
      rw [silent here]
      dsimp only
      rw [List.append_assoc, Buffering.print_append passed,
        ← List.append_assoc, text]
      split <;> simp [front, rear]
  | forked here | nobody here | waited here =>
      rw [here] at text
      exact text
  | print here passed =>
      rw [here] at text
      have before : output ++ parent.memory.stdout =
          (arguments argv).1 ++ printed := text.trans (List.append_nil _)
      dsimp only
      rw [List.append_assoc, Buffering.print_append passed,
        ← List.append_assoc, before]
      rfl
  | @exit code here =>
      rw [here] at text
      rw [List.append_nil, text]
      cases code <;> rfl

/-- It leaves the variable alone, and returns with an empty buffer. -/
theorem ParentMove.settled {idle : Bool} {output after : Bytes}
    {parent later : Parent}
    (moved : ParentMove argv buffering idle output parent after later) :
    later.memory.zmiennaGlobalna = parent.memory.zmiennaGlobalna ∧
      later.point ≠ .parsing ∧
      ∀ code, later.point = .returned code → later.memory.stdout = [] := by
  cases moved with
  | parse here =>
      refine ⟨rfl, ?_, ?_⟩
      · dsimp only
        split <;> simp
      · intro code point
        dsimp only at point
        split at point <;> cases point
  | forked | nobody | waited | print =>
      exact ⟨rfl, by simp, by rintro _ ⟨⟩⟩
  | exit => exact ⟨rfl, by simp, fun _ _ => rfl⟩

section Kinds

variable {i : Nat} {pid : Int} {before point : ChildPoint} {output : Bytes}
  {memory : Memory}

theorem Sequential.parent (sequential : Sequential argv M past state)
    (awake : state.running = none) {idle : Bool} {parent : Parent}
    (moved : ParentMove argv buffering idle state.output state.parent output
      parent) : Sequential argv M past { state with output, parent } := by
  obtain ⟨kept, begun, flushed⟩ := ParentMove.settled moved
  have silent : state.parent.point = .parsing → past = [] := by
    intro here
    rw [sequential.lines, sequential.alone here, awake]
    rfl
  refine ⟨?_, sequential.lines, ?_, sequential.counted,
    fun runs => absurd awake runs, fun here => absurd here begun, flushed⟩
  · apply ParentMove.text moved _ sequential.text
    intro here
    rw [silent here]
    rfl
  · dsimp only
    rw [kept]
    exact sequential.incremented

/-- A `vfork` that fails, or a `wait`. -/
theorem Sequential.advance {later : ParentPoint} {waited : Nat}
    (sequential : Sequential argv M past state)
    (awake : state.running = none)
    (here : state.parent.point = .forking i ∧ later = .forking (i + 1) ∨
      state.parent.point = .waiting i ∧ later = .waiting (i + 1)) :
    Sequential argv M past { state with
      parent := { state.parent with point := later }, waited } := by
  have text := sequential.text
  refine ⟨?_, sequential.lines, sequential.incremented, sequential.counted,
    fun runs => absurd awake runs, ?_, ?_⟩
  · rcases here with ⟨here, rfl⟩ | ⟨here, rfl⟩ <;> rw [here] at text <;>
      exact text
  · rcases here with ⟨_, rfl⟩ | ⟨_, rfl⟩ <;> rintro ⟨⟩
  · rcases here with ⟨_, rfl⟩ | ⟨_, rfl⟩ <;> rintro _ ⟨⟩

theorem Sequential.vfork (sequential : Sequential argv M past state)
    (here : state.parent.point = .forking i)
    (awake : state.running = none) :
    Sequential argv M past { state with
      parent := { state.parent with point := .forking (i + 1) }
      running := some (pid, .incrementing) } := by
  obtain ⟨text, lines, incremented, _, _, _, _⟩ := sequential
  rw [here] at text
  rw [awake] at lines incremented
  refine ⟨text, lines, incremented, ?_, fun _ => ⟨_, rfl⟩, ?_, ?_⟩
  · intro other point same
    cases same
    trivial
  · rintro ⟨⟩
  · rintro _ ⟨⟩

/-- What the child prints comes behind what was printed before. -/
theorem Sequential.childText (sequential : Sequential argv M past state)
    (running : state.running = some (pid, before))
    (moved : ChildMove M buffering pid state.output state.parent.memory
      before output memory point events) :
    output ++ memory.stdout = front argv state.parent.point ++
      (past ++ events).flatMap childLine ++
      rear state.parent.pid memory.zmiennaGlobalna state.parent.point := by
  obtain ⟨i, here⟩ := sequential.asleep (by simp [running])
  have text := sequential.text
  rw [here] at text
  rw [(ChildMove.text moved).1, text, here, List.flatMap_append]
  simp [front, rear]

/-- While a child runs the parent is between two of them. -/
theorem Sequential.between (sequential : Sequential argv M past state)
    (running : state.running = some (pid, before)) :
    state.parent.point ≠ .parsing ∧
      ∀ code, state.parent.point ≠ .returned code := by
  obtain ⟨i, here⟩ := sequential.asleep (by simp [running])
  rw [here]
  exact ⟨by simp, by simp⟩

theorem Sequential.run (sequential : Sequential argv M past state)
    (running : state.running = some (pid, before))
    (moved : ChildMove M buffering pid state.output state.parent.memory
      before output memory point events) :
    Sequential argv M (past ++ events) { state with
      output
      parent := { state.parent with memory }
      running := some (pid, point) } := by
  obtain ⟨_, more⟩ := ChildMove.text moved
  obtain ⟨within, later⟩ :=
    moved.counted (sequential.counted pid before running)
  have lines := sequential.lines
  have incremented := sequential.incremented
  rw [running] at lines incremented
  refine ⟨sequential.childText running moved, ?_, ?_, ?_,
    fun _ => sequential.asleep (by simp [running]), sequential.alone, ?_⟩
  · rw [lines, List.append_assoc]
    exact congrArg _ later.symm
  · dsimp only
    omega
  · intro other following same
    cases same
    exact within
  · intro code returned
    exact absurd returned ((sequential.between running).2 code)

/-- The child calls `_exit`. -/
theorem Sequential.wake (sequential : Sequential argv M past state)
    (running : state.running = some (pid, before))
    (moved : ChildMove M buffering pid state.output state.parent.memory
      before output memory .zombie events) :
    Sequential argv M (past ++ events) { state with
      output
      parent := { state.parent with memory }
      exited := state.exited ++ [pid]
      running := none } := by
  obtain ⟨_, more⟩ := ChildMove.text moved
  obtain ⟨_, later⟩ := moved.counted (sequential.counted pid before running)
  have lines := sequential.lines
  have incremented := sequential.incremented
  rw [running] at lines incremented
  refine ⟨sequential.childText running moved, ?_, ?_, ?_, (absurd rfl ·), ?_,
    ?_⟩
  · have all : List.replicate M pid =
        current M (some (pid, before)) ++ events := later
    rw [lines, List.flatMap_append, List.flatMap_singleton, all,
      List.append_assoc, List.append_assoc, current, List.append_nil]
  · simp only [gained, List.length_append, List.length_singleton]
      at incremented more ⊢
    push_cast
    omega
  · rintro _ _ ⟨⟩
  · exact fun parsing => absurd parsing (sequential.between running).1
  · intro code returned
    exact absurd returned ((sequential.between running).2 code)

end Kinds

theorem Move.sequential (move : Move argv M buffering state next events)
    (sequential : Sequential argv M past state) :
    Sequential argv M (past ++ events) next := by
  cases move with
  | parent awake moved =>
      rw [List.append_nil]
      exact sequential.parent awake moved
  | failed here awake =>
      rw [List.append_nil]
      exact sequential.advance awake (.inl ⟨here, rfl⟩)
  | vfork here awake =>
      rw [List.append_nil]
      exact sequential.vfork here awake
  | reap here awake =>
      rw [List.append_nil]
      exact sequential.advance awake (.inr ⟨here, rfl⟩)
  | run running moved => exact sequential.run running moved
  | wake running moved => exact sequential.wake running moved

end Steps

section Runs

variable {argv : List Bytes} {M : Nat} {buffering : Buffering} {pid : Int}
  {trace : List Event} {state : State}

theorem run_sequential
    (run : (main argv M buffering pid).Run (initial pid) trace state) :
    Sequential argv M trace state ∧ state.parent.pid = pid := by
  refine run.history (fun past reached =>
    Sequential argv M past reached ∧ reached.parent.pid = pid) ⟨?_, rfl⟩ ?_
  · refine ⟨rfl, rfl, rfl, ?_, (absurd rfl ·), fun _ => rfl, fun _ _ => rfl⟩
    intro other point running
    cases running
  · rintro past before action after events ⟨sequential, same⟩ _ taken
    have move := step_move taken
    refine ⟨move.sequential sequential, ?_⟩
    cases move with
    | parent awake moved => cases moved <;> exact same
    | failed | vfork | reap | run | wake => exact same

/-- The lines of one child after the other, and then that of the parent, who
has seen every increment. -/
theorem vfork_output
    (run : (main argv M buffering pid).Run (initial pid) trace state)
    (returned : state.parent.point = .returned 0) :
    trace = state.exited.flatMap (List.replicate M) ∧
      state.output = (arguments argv).1 ++ trace.flatMap childLine ++
        parentLine pid (1 + state.exited.length) := by
  obtain ⟨sequential, same⟩ := run_sequential run
  have awake : state.running = none := by
    by_contra asleep
    obtain ⟨i, here⟩ := sequential.asleep asleep
    rw [returned] at here
    cases here
  have text := sequential.text
  have incremented := sequential.incremented
  have lines := sequential.lines
  rw [awake] at incremented lines
  rw [sequential.flushed 0 returned, List.append_nil, returned, same,
    incremented] at text
  refine ⟨lines.trans (List.append_nil _), ?_⟩
  rw [text]
  simp [front, rear, gained]

end Runs

/-- One child, that prints two lines. -/
def oneChild : List Action :=
  [.parent 0, .fork (some 7)] ++ List.replicate 7 (.child 0 0) ++
    [.parent 0, .wait 0] ++ List.replicate 3 (.parent 0)

theorem vfork_output_oneChild :
    (((main [bytes "app", bytes " 1"] 2 (.full 100) 6).execute
      (fun _ _ => True) (initial 6) oneChild).get (by decide +kernel)).1.output =
      (arguments [bytes "app", bytes " 1"]).1 ++
        (((main [bytes "app", bytes " 1"] 2 (.full 100) 6).execute
          (fun _ _ => True) (initial 6) oneChild).get
            (by decide +kernel)).2.flatMap childLine ++
        parentLine 6 (1 +
          (((main [bytes "app", bytes " 1"] 2 (.full 100) 6).execute
            (fun _ _ => True) (initial 6) oneChild).get
              (by decide +kernel)).1.exited.length) := by
  have run : (main [bytes "app", bytes " 1"] 2 (.full 100) 6).Run (initial 6)
      (((main [bytes "app", bytes " 1"] 2 (.full 100) 6).execute
        (fun _ _ => True) (initial 6) oneChild).get (by decide +kernel)).2
      (((main [bytes "app", bytes " 1"] 2 (.full 100) 6).execute
        (fun _ _ => True) (initial 6) oneChild).get (by decide +kernel)).1 :=
    Machine.execute_get_runWithin _
  exact (vfork_output run (by decide +kernel)).2

end SysOp.Lab1.Zad1.Vfork
