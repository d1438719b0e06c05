import SysOp.Foundation.Inevitable
import SysOp.Lab1.Zad1.Fork

/-!
# What `main.c` prints

On a terminal each line gets out as it is printed, and the line of the parent is
the last one.  In a pipe or a file the lines of the children are lost, though
each of them has printed all of its own.
-/

namespace SysOp.Lab1.Zad1.Fork

open SysOp.Foundation

/-- Each line has got out. -/
structure Direct (argv : List Bytes) (past : List Event) (state : State) :
    Prop where
  parent : state.parent.memory.stdout = []
  children : ∀ child ∈ state.children, child.memory.stdout = []
  output : state.output = front argv state.parent.point ++
    past.flatMap childLine ++ rear state.parent.pid 1 state.parent.point

/-- Nothing has got out before the parent prints its last line. -/
structure Held (argv : List Bytes) (M : Nat) (state : State) : Prop where
  parent : state.output ++ state.parent.memory.stdout =
    front argv state.parent.point ++
      rear state.parent.pid 1 state.parent.point
  silent : ∀ i, state.parent.point = .forking i → state.output = []
  flushed : ∀ code, state.parent.point = .returned code →
    state.parent.memory.stdout = []
  children : ∀ child ∈ state.children, child.memory.stdout =
    (arguments argv).1 ++ (child.printed M).flatMap childLine

section Steps

variable {argv : List Bytes} {M capacity : Nat} {past events : List Event}
  {state next : State}

/-- A child that prints does so before the last line of its parent. -/
theorem Consistent.rear_eq_nil (consistent : Consistent argv M past state)
    {index : Nat} {child : Child}
    (found : state.children[index]? = some child)
    (running : child.point ≠ .reaped) :
    rear state.parent.pid 1 state.parent.point = [] := by
  have weight := le_census Child.unreaped found
  have unreaped := consistent.unreaped
  rw [Child.unreaped, if_neg running] at weight
  unfold rear
  split
  case h_1 here | h_2 here =>
    rw [here] at unreaped
    exact absurd (weight.trans unreaped) (Nat.not_succ_le_zero 0)
  case h_3 => rfl

theorem ParentMove.direct {output : Bytes} {parent : Parent}
    (moved : ParentMove argv .line state.idle state.output state.parent
      output parent)
    (consistent : Consistent argv M past state)
    (direct : Direct argv past state) :
    Direct argv past { state with output, parent } := by
  obtain ⟨pending, children, written⟩ := direct
  cases moved with
  | parse here printed =>
      have nobody := consistent.alone (by rw [here]; rfl)
      have silent := consistent.lines
      rw [nobody] at silent
      rw [pending] at printed
      obtain ⟨rfl, rfl⟩ := Buffering.print_line printed
        (arguments_whole argv)
      rw [here, silent.eq_nil] at written
      refine ⟨rfl, children, ?_⟩
      rw [written, silent.eq_nil]
      dsimp only
      split <;> simp [front, rear]
  | forked here | nobody here | waited here =>
      rw [here] at written
      exact ⟨pending, children, written⟩
  | print here printed =>
      rw [pending, consistent.own] at printed
      obtain ⟨rfl, rfl⟩ := Buffering.print_line printed
        (parentLine_whole _ _)
      rw [here] at written
      refine ⟨rfl, children, ?_⟩
      rw [written]
      simp [front, rear]
  | @exit code here =>
      rw [here] at written
      refine ⟨rfl, children, ?_⟩
      rw [pending, List.append_nil, written]
      cases code <;> rfl

/-- The line of a child is out at once. -/
theorem ChildMove.direct {child : Child} {output after : Bytes}
    {memory : Memory} {point : ChildPoint}
    (moved : ChildMove M .line child.pid output child.memory child.point
      after memory point events)
    (pending : child.memory.stdout = []) :
    after = output ++ events.flatMap childLine ∧ memory.stdout = [] := by
  generalize child.point = here at moved
  cases moved with
  | increment | more | all | exit =>
      exact ⟨(List.append_nil _).symm, pending⟩
  | print printed =>
      rw [pending] at printed
      obtain ⟨rfl, rfl⟩ := Buffering.print_line printed
        (childLine_whole child.pid)
      exact ⟨by simp, rfl⟩

theorem Move.direct (move : Move argv M .line state next events)
    (consistent : Consistent argv M past state)
    (direct : Direct argv past state) :
    Direct argv (past ++ events) next := by
  obtain ⟨parent, children, output⟩ := id direct
  cases move with
  | parent moved =>
      rw [List.append_nil]
      exact ParentMove.direct moved consistent direct
  | failed here =>
      rw [here] at output
      rw [List.append_nil]
      exact ⟨parent, children, output⟩
  | fork here =>
      rw [here] at output
      rw [List.append_nil]
      refine ⟨parent, ?_, output⟩
      intro child member
      rcases List.mem_append.mp member with old | new
      · exact children child old
      · rw [List.mem_singleton.mp new]
        exact parent
  | reap here more found =>
      rw [here] at output
      rw [List.append_nil]
      refine ⟨parent, ?_, output⟩
      intro child member
      rcases List.mem_or_eq_of_mem_set member with old | rfl
      · exact children child old
      · have before := children _ (List.mem_of_getElem? found)
        exact before
  | child found moved =>
      have before := consistent.rear_eq_nil found (ChildMove.unreaped moved).1
      rw [before, List.append_nil] at output
      obtain ⟨rfl, printed⟩ := ChildMove.direct moved
        (children _ (List.mem_of_getElem? found))
      refine ⟨parent, ?_, ?_⟩
      · intro other member
        rcases List.mem_or_eq_of_mem_set member with old | rfl
        · exact children other old
        · exact printed
      · rw [output]
        simp [before]

/-- The lines of one child fit into the buffer. -/
theorem length_printed_le {pid : Int} (counted : IsInt pid) {lines : Nat}
    (le : lines ≤ M) :
    ((List.replicate lines pid).flatMap childLine).length ≤ M * 22 := by
  have line := length_childLine_le counted
  rw [List.length_flatMap, List.map_replicate, List.sum_replicate_nat]
  exact Nat.mul_le_mul le line

theorem ChildMove.held {child : Child} {output after : Bytes}
    {memory : Memory} {point : ChildPoint}
    (moved : ChildMove M (.full capacity) child.pid output child.memory
      child.point after memory point events)
    (room : (arguments argv).1.length + M * 22 ≤ capacity)
    (counted : child.point.Counted M) (pid : IsInt child.pid)
    (pending : child.memory.stdout =
      (arguments argv).1 ++ (child.printed M).flatMap childLine) :
    after = output ∧ memory.stdout = (arguments argv).1 ++
      (Child.printed M { child with memory, point }).flatMap childLine := by
  obtain ⟨within, lines⟩ := moved.counted counted
  have stays (kept : memory.stdout = child.memory.stdout)
      (silent : events = []) : memory.stdout = (arguments argv).1 ++
        (Child.printed M { child with memory, point }).flatMap childLine := by
    rw [kept, pending, Child.printed, Child.printed, lines, silent,
      List.append_nil]
  generalize here : child.point = before at moved
  cases moved with
  | increment | more | all | exit => exact ⟨rfl, stays rfl rfl⟩
  | @print j early passed stdout printed =>
      rw [here] at counted lines
      have more : child.printed M = List.replicate j child.pid := by
        rw [Child.printed, here]
        rfl
      have all : child.memory.stdout ++ childLine child.pid =
          (arguments argv).1 ++
            (List.replicate (j + 1) child.pid).flatMap childLine := by
        rw [pending, more, List.replicate_succ', List.flatMap_append,
          List.append_assoc]
        simp
      have fits : ((List.replicate (j + 1) child.pid).flatMap
          childLine).length ≤ M * 22 := length_printed_le pid counted
      have small : (child.memory.stdout ++ childLine child.pid).length ≤
          capacity := by
        rw [all, List.length_append]
        omega
      obtain ⟨rfl, rfl⟩ := Buffering.print_full printed small
      exact ⟨List.append_nil _, all⟩

theorem ParentMove.held {output : Bytes} {parent : Parent}
    (moved : ParentMove argv (.full capacity) state.idle state.output
      state.parent output parent)
    (room : (arguments argv).1.length + M * 22 ≤ capacity)
    (consistent : Consistent argv M past state)
    (held : Held argv M state) :
    Held argv M { state with output, parent } := by
  obtain ⟨pending, silent, _, children⟩ := held
  cases moved with
  | parse here printed =>
      rw [here] at pending
      obtain ⟨output, stdout⟩ := List.append_eq_nil_iff.mp pending
      rw [stdout] at printed
      obtain ⟨rfl, rfl⟩ := Buffering.print_full printed
        (Nat.le_of_add_right_le room)
      refine ⟨?_, ?_, ?_, children⟩
      · rw [output]
        dsimp only
        split <;> simp [front, rear]
      · intro i _
        rw [output, List.append_nil]
      · intro code point
        dsimp only at point
        split at point <;> cases point
  | forked here | nobody here | waited here =>
      rw [here] at pending
      exact ⟨pending, nofun, nofun, children⟩
  | print here printed =>
      rw [here] at pending
      have before : state.output ++ state.parent.memory.stdout =
          (arguments argv).1 := pending.trans (List.append_nil _)
      refine ⟨?_, nofun, nofun, children⟩
      dsimp only
      rw [List.append_assoc, Buffering.print_append printed,
        ← List.append_assoc, before, consistent.own]
      rfl
  | @exit code here =>
      rw [here] at pending
      refine ⟨?_, nofun, fun _ _ => rfl, children⟩
      rw [List.append_nil, pending]
      cases code <;> rfl

/-- A child takes along what is pending in the stream of its parent. -/
theorem Move.held (move : Move argv M (.full capacity) state next events)
    (room : (arguments argv).1.length + M * 22 ≤ capacity)
    (consistent : Consistent argv M past state)
    (held : Held argv M state) : Held argv M next := by
  obtain ⟨parent, silent, flushed, children⟩ := id held
  cases move with
  | parent moved => exact ParentMove.held moved room consistent held
  | failed here =>
      have nothing := silent _ here
      rw [here] at parent
      exact ⟨parent, fun _ _ => nothing, nofun, children⟩
  | fork here =>
      have nothing := silent _ here
      rw [here] at parent
      refine ⟨parent, fun _ _ => nothing, nofun, ?_⟩
      intro child member
      rcases List.mem_append.mp member with old | new
      · exact children child old
      · rw [List.mem_singleton.mp new]
        rw [nothing, List.nil_append] at parent
        exact parent
  | reap here more found exited =>
      rw [here] at parent
      refine ⟨parent, nofun, nofun, ?_⟩
      intro child member
      rcases List.mem_or_eq_of_mem_set member with old | rfl
      · exact children child old
      · have before := children _ (List.mem_of_getElem? found)
        rwa [Child.printed, exited] at before
  | @child index child after memory point _ found moved =>
      have member := List.mem_of_getElem? found
      obtain ⟨rfl, pending⟩ := ChildMove.held moved room
        (consistent.counted child member) (consistent.pids child member)
        (children child member)
      refine ⟨parent, silent, flushed, ?_⟩
      intro other held
      rcases List.mem_or_eq_of_mem_set held with old | rfl
      · exact children other old
      · exact pending

end Steps

section Runs

variable {argv : List Bytes} {M : Nat} {buffering : Buffering} {pid : Int}
  {trace : List Event} {state : State}

theorem initial_consistent : Consistent argv M [] (initial pid) where
  forked := by
    intro i point
    cases point
  unreaped := Nat.le_refl 0
  alone := fun _ => rfl
  counted := fun _ member => absurd member List.not_mem_nil
  pids := fun _ member => absurd member List.not_mem_nil
  lines := .refl _
  own := rfl

theorem run_consistent
    (run : (main argv M buffering pid).Run (initial pid) trace state) :
    Consistent argv M trace state :=
  run.history (Consistent argv M) initial_consistent
    fun consistent _ taken => (step_move taken).consistent consistent

theorem run_pid
    (run : (main argv M buffering pid).Run (initial pid) trace state) :
    state.parent.pid = pid := by
  refine run.invariant (·.parent.pid = pid) rfl ?_
  intro before action after events same _ taken
  cases step_move taken with
  | parent moved => cases moved <;> exact same
  | failed | fork | reap | child => exact same

/-- Every child prints all of its lines, and when the parent has returned they
are all there before the line of the parent, or none of them is. -/
theorem fork_output
    (run : (main argv M buffering pid).Run (initial pid) trace state)
    (returned : state.parent.point = .returned 0) :
    trace.Perm (state.children.flatMap fun child =>
        List.replicate M child.pid) ∧
      (buffering = .line → state.output =
        (arguments argv).1 ++ trace.flatMap childLine ++ parentLine pid 1) ∧
      (∀ capacity, buffering = .full capacity →
        (arguments argv).1.length + M * 22 ≤ capacity →
        state.output = (arguments argv).1 ++ parentLine pid 1) := by
  have consistent := run_consistent run
  refine ⟨?_, ?_, ?_⟩
  · have reaped : census Child.unreaped state.children = 0 := by
      have unreaped := consistent.unreaped
      rw [returned] at unreaped
      exact Nat.le_zero.mp unreaped
    have all : state.children.flatMap (Child.printed M) =
        state.children.flatMap fun child => List.replicate M child.pid := by
      refine List.flatMap_congr fun child member => ?_
      have weight := census_eq_zero_iff.mp reaped child member
      have point : child.point = .reaped := by
        by_contra running
        rw [Child.unreaped, if_neg running] at weight
        cases weight
      rw [Child.printed, point]
      rfl
    rw [← all]
    exact consistent.lines
  · rintro rfl
    have direct := run.history (fun past reached =>
      Consistent argv M past reached ∧ Direct argv past reached)
      ⟨initial_consistent, rfl, fun _ member => absurd member List.not_mem_nil,
        rfl⟩ fun both _ taken =>
        ⟨(step_move taken).consistent both.1,
          (step_move taken).direct both.1 both.2⟩
    rw [direct.2.output, returned, run_pid run]
    rfl
  · rintro capacity rfl room
    have held := run.history (fun past reached =>
      Consistent argv M past reached ∧ Held argv M reached)
      ⟨initial_consistent, rfl, fun _ _ => rfl, fun _ _ => rfl,
        fun _ member => absurd member List.not_mem_nil⟩ fun both _ taken =>
        ⟨(step_move taken).consistent both.1,
          (step_move taken).held room both.1 both.2⟩
    have output := held.2.parent
    rw [held.2.flushed 0 returned, List.append_nil, returned, run_pid run]
      at output
    exact output

end Runs

/-- One child, that prints two lines. -/
def oneChild : List Action :=
  [.parent 0, .fork (some 7), .parent 0] ++
    List.replicate 7 (.child 0 0) ++ [.wait 0] ++
    List.replicate 3 (.parent 0)

def oneChildArgv : List Bytes := [bytes "app", bytes " 1"]

theorem fork_output_oneChild :
    (((main oneChildArgv 2 (.full 100) 6).execute (fun _ _ => True)
      (initial 6) oneChild).get (by decide +kernel)).1.output =
      (arguments oneChildArgv).1 ++ parentLine 6 1 := by
  have run : (main oneChildArgv 2 (.full 100) 6).Run (initial 6)
      (((main oneChildArgv 2 (.full 100) 6).execute (fun _ _ => True)
        (initial 6) oneChild).get (by decide +kernel)).2
      (((main oneChildArgv 2 (.full 100) 6).execute (fun _ _ => True)
        (initial 6) oneChild).get (by decide +kernel)).1 :=
    Machine.execute_get_runWithin _
  exact (fork_output run (by decide +kernel)).2.2 100 rfl (by decide +kernel)

section Ending

variable {argv : List Bytes} {M : Nat} {buffering : Buffering} {pid : Int}
  {past events trace : List Event} {state next : State}

/-- How many steps a child still takes. -/
def ChildPoint.effort (M : Nat) : ChildPoint → Nat
  | .incrementing => 2 * M + 3
  | .testing j => 2 * (M - j) + 2
  | .printing j => 2 * (M - j) + 1
  | .exiting => 1
  | .zombie | .reaped => 0

/-- How many the parent and the children to come still take, at most. -/
def ParentPoint.effort (n M : Nat) : ParentPoint → Nat
  | .parsing => n * (2 * M + 6) + n + 6
  | .forking i => (n - i) * (2 * M + 6) + n + 5
  | .waiting i => n - i + 3
  | .printing => 2
  | .exiting _ => 1
  | .returned _ => 0

def Child.effort (M : Nat) (child : Child) : Nat :=
  ChildPoint.effort M child.point

def State.effort (n M : Nat) (state : State) : Nat :=
  ParentPoint.effort n M state.parent.point +
    census (Child.effort M) state.children

/-- A child has a fresh copy of the variable to increment. -/
def Fresh (state : State) : Prop :=
  state.parent.memory.zmiennaGlobalna = 1 ∧
    ∀ child ∈ state.children, child.point = .incrementing →
      child.memory.zmiennaGlobalna = 1

theorem ParentMove.effort {idle : Bool} {output after : Bytes}
    {parent later : Parent}
    (moved : ParentMove argv buffering idle output parent after later)
    (M : Nat) :
    ParentPoint.effort ((arguments argv).2.getD 0).toNat M later.point <
      ParentPoint.effort ((arguments argv).2.getD 0).toNat M parent.point := by
  cases moved with
  | parse here =>
      rw [here]
      dsimp only
      split <;> simp only [ParentPoint.effort, Nat.sub_zero] <;> omega
  | forked here | waited here | print here | exit here =>
      rw [here]
      simp only [ParentPoint.effort]
      omega
  | nobody here more =>
      rw [here]
      simp only [ParentPoint.effort]
      omega

theorem ChildMove.effort {output after : Bytes} {memory later : Memory}
    {point following : ChildPoint}
    (moved : ChildMove M buffering pid output memory point after later
      following events) (counted : point.Counted M) :
    ChildPoint.effort M following < ChildPoint.effort M point := by
  cases moved with
  | increment | more | all | exit =>
      simp only [ChildPoint.effort]
      omega
  | print =>
      have more : _ < M := counted
      simp only [ChildPoint.effort]
      omega

theorem Move.effort (move : Move argv M buffering state next events)
    (consistent : Consistent argv M past state) :
    next.effort ((arguments argv).2.getD 0).toNat M <
      state.effort ((arguments argv).2.getD 0).toNat M := by
  cases move with
  | parent moved =>
      have less := ParentMove.effort moved M
      simp only [State.effort]
      omega
  | @failed i here more =>
      have left := Nat.sub_lt_sub_left (Int.lt_toNat.mpr more)
        (Nat.lt_add_one i)
      simp only [State.effort, here, ParentPoint.effort]
      have less := Nat.mul_le_mul_right (2 * M + 6) left
      rw [Nat.succ_mul] at less
      omega
  | @fork i pid here more =>
      have left := Nat.sub_lt_sub_left (Int.lt_toNat.mpr more)
        (Nat.lt_add_one i)
      simp only [State.effort, here, ParentPoint.effort,
        census_append_singleton, Child.effort, ChildPoint.effort]
      have less := Nat.mul_le_mul_right (2 * M + 6) left
      rw [Nat.succ_mul] at less
      omega
  | @reap i index child here more found exited =>
      have counted := census_set (Child.effort M) found
        { child with point := .reaped }
      have before : child.effort M = 0 := by
        rw [Child.effort, exited]
        rfl
      have after : Child.effort M { child with point := .reaped } = 0 := rfl
      simp only [State.effort, here, ParentPoint.effort]
      omega
  | @child index child output memory point _ found moved =>
      have less := ChildMove.effort moved
        (consistent.counted child (List.mem_of_getElem? found))
      have counted := census_set (Child.effort M) found
        { child with memory, point }
      simp only [State.effort]
      simp only [Child.effort] at counted less
      omega

theorem ChildMove.incremented {output after : Bytes} {memory later : Memory}
    {point following : ChildPoint}
    (moved : ChildMove M buffering pid output memory point after later
      following events) : following ≠ .incrementing := by
  cases moved <;> simp

theorem Move.fresh (move : Move argv M buffering state next events)
    (fresh : Fresh state) : Fresh next := by
  obtain ⟨own, children⟩ := fresh
  cases move with
  | parent moved => cases moved <;> exact ⟨own, children⟩
  | failed => exact ⟨own, children⟩
  | fork =>
      refine ⟨own, fun child member point => ?_⟩
      rcases List.mem_append.mp member with old | new
      · exact children child old point
      · rw [List.mem_singleton.mp new]
        exact own
  | reap =>
      refine ⟨own, fun child member point => ?_⟩
      rcases List.mem_or_eq_of_mem_set member with old | rfl
      · exact children child old point
      · cases point
  | child found moved =>
      refine ⟨own, fun child member point => ?_⟩
      rcases List.mem_or_eq_of_mem_set member with old | rfl
      · exact children child old point
      · exact absurd point (ChildMove.incremented moved)

/-- A child that has not been waited for can go on, or be waited for. -/
theorem able_of_running {i index : Nat} {child : Child}
    (more : (i : Int) < (arguments argv).2.getD 0)
    (here : state.parent.point = .waiting i)
    (found : state.children[index]? = some child)
    (running : child.point ≠ .reaped)
    (fresh : child.point = .incrementing →
      child.memory.zmiennaGlobalna = 1) :
    (main argv M buffering pid).Able (fun _ _ => True) state := by
  have able (early : Nat)
      (enabled : (childStep M buffering early child.pid state.output
        child.memory child.point).isSome) :
      (main argv M buffering pid).Able (fun _ _ => True) state := by
    refine ⟨.child index early, trivial, ?_⟩
    change (step argv M buffering state (.child index early)).isSome
    simpa [step, moveAt, found] using enabled
  cases point : child.point with
  | incrementing =>
      have one := fresh point
      refine able 0 ?_
      simp [point, childStep, one, INT_MAX]
  | testing j | exiting =>
      refine able 0 ?_
      simp [point, childStep]
  | printing j =>
      refine able (child.memory.stdout ++ childLine child.pid).length ?_
      simp only [point, childStep, Option.isSome_map]
      exact buffering.print_isSome ..
  | zombie =>
      refine ⟨.wait index, trivial, ?_⟩
      change (step argv M buffering state (.wait index)).isSome
      simp [step, waitStep, here, found, more, point]
  | reaped => exact absurd point running

/-- As long as the parent has not returned, it or a child can go on. -/
theorem able_of_not_returned
    (small : (arguments argv).2.getD 0 ≤ INT_MAX) (fresh : Fresh state)
    (running : ¬ ∃ code, state.parent.point = .returned code) :
    (main argv M buffering pid).Able (fun _ _ => True) state := by
  have able (action : Action)
      (enabled : (step argv M buffering state action).isSome) :
      (main argv M buffering pid).Able (fun _ _ => True) state :=
    ⟨action, trivial, enabled⟩
  have prints (text : Bytes) := buffering.print_isSome isNewline
    state.parent.memory.stdout text
  cases here : state.parent.point with
  | parsing =>
      refine able (.parent (state.parent.memory.stdout ++
        (arguments argv).1).length) ?_
      simp only [step, parentStep, here, Option.isSome_map]
      exact prints _
  | forking i =>
      by_cases more : (i : Int) < (arguments argv).2.getD 0
      · have next : (i : Int) + 1 ≤ INT_MAX := by omega
        refine able (.fork none) ?_
        simp [step, forkStep, here, more, next]
      · refine able (.parent 0) ?_
        simp [step, parentStep, here, more]
  | waiting i =>
      by_cases more : (i : Int) < (arguments argv).2.getD 0
      · by_cases idle : state.idle = true
        · refine able (.parent 0) ?_
          simp [step, parentStep, here, more, idle]
        · obtain ⟨child, member, running⟩ :
              ∃ child ∈ state.children, child.point ≠ .reaped := by
            simpa [State.idle] using idle
          obtain ⟨index, found⟩ := List.mem_iff_getElem?.mp member
          exact able_of_running more here found running
            (fresh.2 child member)
      · refine able (.parent 0) ?_
        simp [step, parentStep, here, more]
  | printing =>
      refine able (.parent (state.parent.memory.stdout ++
        parentLine state.parent.pid
          state.parent.memory.zmiennaGlobalna).length) ?_
      simp only [step, parentStep, here, Option.isSome_map]
      exact prints _
  | exiting code =>
      refine able (.parent 0) ?_
      simp [step, parentStep, here]
  | returned code => exact absurd ⟨code, here⟩ running

/-- The parent returns, whoever goes on when. -/
theorem main_returns (small : (arguments argv).2.getD 0 ≤ INT_MAX) :
    (main argv M buffering pid).Inevitable (fun _ _ => True)
      (fun last => ∃ code, last.parent.point = .returned code)
      (initial pid) := by
  refine Machine.inevitable_of_measure
    (fun reached => Fresh reached ∧ ∃ past, Consistent argv M past reached)
    (State.effort ((arguments argv).2.getD 0).toNat M) ?_ ?_
    ⟨⟨rfl, fun _ member => absurd member List.not_mem_nil⟩, [],
      initial_consistent⟩
  · rintro reached ⟨fresh, _⟩ running
    exact able_of_not_returned small fresh running
  · rintro reached action next events ⟨fresh, past, consistent⟩ _ taken
    have move := step_move taken
    exact ⟨⟨move.fresh fresh, _, move.consistent consistent⟩,
      move.effort consistent⟩

end Ending

theorem main_returns_oneChild :
    (main oneChildArgv 2 (.full 100) 6).Inevitable (fun _ _ => True)
      (fun last => ∃ code, last.parent.point = .returned code) (initial 6) :=
  main_returns (by decide)

end SysOp.Lab1.Zad1.Fork
