import SysOp.Lab3.Zad1.Printing

/-!
# The lines of the rounds

On a terminal the line of each round is printed once.  In a pipe or a file each
child of a round prints again the lines of all the rounds before it.
-/

namespace SysOp.Lab3.Zad1

open SysOp.Foundation

universe u

variable {Double : Type u} {n : Nat} {inherited : Inherited}
  {partialSum : Pipe → Double} {fixed : Nat → Double → Bytes}
  {buffering : Buffering} {capacity : Nat} {state next last : Printing Double}
  {past events trace : List (TimedEvent Double)}

/-- What the children with these pipes print again of the lines of the earlier
rounds. -/
def reprinted (lines : List Bytes) (pipes : List Pipe) : Bytes :=
  pipes.flatMap fun pipe => (lines.take (pipe.round - 1)).flatten

/-- What is still to come out at the end. -/
def ParentPoint.rear (text : Bytes) (point : ParentPoint) : Bytes :=
  if point = .finished then text else []

/-- The children have pending what the parent has. -/
def Printing.Copies (state : Printing Double) : Prop :=
  state.streams.children =
    state.processes.children.map (Child.pending state.streams.parent)

/-- Each line has got out. -/
structure Direct (fixed : Nat → Double → Bytes)
    (past : List (TimedEvent Double)) (state : Printing Double) : Prop where
  parent : state.streams.parent = []
  output : state.streams.output = (linesOf fixed past).flatten

/-- Nothing of what the parent has printed has got out, but for what the
children have passed on. -/
structure Held (lines : List Bytes) (state : Printing Double) : Prop where
  parent : state.streams.parent ++
      state.processes.parent.point.rear lines.flatten = lines.flatten
  output : state.streams.output ++ state.streams.children.flatten =
    reprinted lines (state.processes.children.map Child.pipe) ++
      state.processes.parent.point.rear lines.flatten

theorem linesOf_append (earlier later : List (TimedEvent Double)) :
    linesOf fixed (earlier ++ later) =
      linesOf fixed earlier ++ linesOf fixed later :=
  List.filterMap_append ..

theorem linesOf_printed (k : Nat) (totalSum elapsed : Double) :
    linesOf fixed [(.printed k totalSum, elapsed)] =
      [resultLine fixed k totalSum elapsed] := rfl

/-- Later lines are not printed again by earlier children. -/
theorem reprinted_concat {lines : List Bytes} {pipes : List Pipe}
    (earlier : ∀ pipe ∈ pipes, pipe.round - 1 ≤ lines.length) (line : Bytes) :
    reprinted (lines ++ [line]) pipes = reprinted lines pipes := by
  apply List.flatMap_congr
  intro pipe member
  rw [List.take_append_of_le_length (earlier pipe member)]

theorem resultLine_whole (k : Nat) (totalSum elapsed : Double) :
    Whole isNewline (resultLine fixed k totalSum elapsed) := by
  have ends : bytes " s\n" = bytes " s" ++ [10] := by decide
  rw [resultLine, ends, ← List.append_assoc]
  exact Whole.concat _ rfl

section Children

variable {children : List Child}

theorem Child.pending_eq (text : Bytes) (child : Child) :
    child.pending text = [] ∨ child.pending text = text := by
  unfold Child.pending
  split
  · exact .inl rfl
  · exact .inl rfl
  · exact .inr rfl

theorem map_pending_of_reaped
    (reaped : ∀ child ∈ children, child.point = .reaped) (text : Bytes) :
    children.map (Child.pending text) = children.map fun _ => [] := by
  apply List.map_congr_left
  intro child member
  rw [Child.pending, reaped child member]

theorem flatten_pending_of_reaped
    (reaped : ∀ child ∈ children, child.point = .reaped) (text : Bytes) :
    (children.map (Child.pending text)).flatten = [] := by
  rw [map_pending_of_reaped reaped, List.flatten_eq_nil_iff]
  intro pending member
  obtain ⟨_, _, rfl⟩ := List.mem_map.mp member
  rfl

end Children

section Steps

/-- A child that exits passes on what the parent has pending. -/
theorem Printing.Copies.exiting (copies : state.Copies) {index : Nat}
    {child : Child} {pending : Bytes}
    (found : state.processes.children[index]? = some child)
    (stands : state.streams.children[index]? = some pending)
    (here : child.point = .exiting) : pending = state.streams.parent := by
  rw [copies, List.getElem?_map, found, Option.map_some, Child.pending,
    here] at stands
  exact (Option.some.inj stands).symm

/-- Nothing is lost. -/
theorem Change.sublist (change : Change n fixed buffering state next events)
    (kept : (linesOf fixed past).flatten.Sublist
      (state.streams.output ++ state.streams.parent)) :
    (linesOf fixed (past ++ events)).flatten.Sublist
      (next.streams.output ++ next.streams.parent) := by
  rw [linesOf_append]
  cases change with
  | calm calm silent =>
      rw [silent, List.append_nil]
      exact kept
  | fork => simpa [linesOf] using kept
  | print here printed =>
      have all := Buffering.print_append printed
      rw [List.flatten_append, List.append_assoc, all, ← List.append_assoc]
      exact kept.append (by simp [linesOf, lineOf])
  | finish => simpa [linesOf] using kept
  | @exit index child pending =>
      have more := (List.sublist_append_left state.streams.output
        pending).append_right state.streams.parent
      simpa [linesOf] using kept.trans more

theorem Change.direct (change : Change n fixed .line state next events)
    (copies : state.Copies) (direct : Direct fixed past state) :
    Direct fixed (past ++ events) next := by
  obtain ⟨parent, output⟩ := direct
  cases change with
  | calm calm silent =>
      refine ⟨parent, ?_⟩
      rw [linesOf_append, silent, List.append_nil]
      exact output
  | fork => exact ⟨parent, by simpa [linesOf] using output⟩
  | print here printed =>
      rw [parent] at printed
      obtain ⟨rfl, rfl⟩ := Buffering.print_line printed
        (resultLine_whole _ _ _)
      refine ⟨rfl, ?_⟩
      rw [linesOf_append, List.flatten_append, ← output]
      simp [linesOf, lineOf]
  | finish => exact ⟨rfl, by simpa [linesOf, parent] using output⟩
  | exit found stands here =>
      have nothing := copies.exiting found stands here
      rw [parent] at nothing
      exact ⟨parent, by simpa [linesOf, nothing] using output⟩

variable [Zero Double] [Add Double]

theorem Change.copies (change : Change n fixed buffering state next events)
    (accounts : state.processes.Accounts partialSum) (copies : state.Copies) :
    next.Copies := by
  unfold Printing.Copies at copies ⊢
  cases change with
  | calm calm => rw [copies, calm.pending]
  | fork =>
      rw [copies, List.map_append]
      rfl
  | print here =>
      have reaped := accounts.allReaped (by rw [here]; rfl)
      rw [copies, map_pending_of_reaped reaped, map_pending_of_reaped reaped]
  | finish here =>
      have reaped := accounts.allReaped (by rw [here]; rfl)
      rw [copies, map_pending_of_reaped reaped, map_pending_of_reaped reaped]
  | exit =>
      rw [copies, List.map_set]
      rfl

/-- All the children of earlier rounds. -/
theorem State.Accounts.earlier {processes : State Double}
    (accounts : processes.Accounts partialSum) {lines : List Bytes}
    (count : lines.length + 1 = processes.parent.k) :
    ∀ pipe ∈ processes.children.map Child.pipe,
      pipe.round - 1 ≤ lines.length := by
  intro pipe member
  rw [accounts.pipes, mem_pipesUpTo_iff] at member
  omega

theorem Change.held
    (change : Change n fixed (.full capacity) state next events)
    (accounts : state.processes.Accounts partialSum) (copies : state.Copies)
    {lines : List Bytes} (count : lines.length + 1 = state.processes.parent.k)
    (room : (lines ++ linesOf fixed events).flatten.length ≤ capacity)
    (held : Held lines state) : Held (lines ++ linesOf fixed events) next := by
  obtain ⟨parent, output⟩ := held
  cases change with
  | calm calm silent =>
      rw [silent, List.append_nil]
      refine ⟨?_, ?_⟩
      · simpa only [ParentPoint.rear, calm.finished] using parent
      · simpa only [ParentPoint.rear, calm.finished, calm.pipes] using output
  | fork here =>
      have whole : lines.take (state.processes.parent.k - 1) = lines :=
        List.take_of_length_le (by omega)
      simp only [here, ParentPoint.rear, reduceCtorEq, if_false,
        List.append_nil] at parent output
      refine ⟨?_, ?_⟩
      · simpa [ParentPoint.rear, linesOf] using parent
      · simp [ParentPoint.rear, linesOf, ← List.append_assoc, output,
          reprinted, whole, parent]
  | print here printed =>
      simp only [here, ParentPoint.rear, reduceCtorEq, if_false,
        List.append_nil] at parent output
      rw [linesOf_printed] at room ⊢
      rw [List.flatten_append, List.flatten_singleton, ← parent] at room
      obtain ⟨rfl, rfl⟩ := Buffering.print_full printed room
      refine ⟨?_, ?_⟩
      · simp [ParentPoint.rear, parent]
      · simp [ParentPoint.rear, output,
          reprinted_concat (accounts.earlier count)]
  | finish here =>
      simp only [here, ParentPoint.rear, reduceCtorEq, if_false,
        List.append_nil] at parent output
      have reaped := accounts.allReaped (by rw [here]; rfl)
      rw [copies, flatten_pending_of_reaped reaped, List.append_nil] at output
      refine ⟨by simp [ParentPoint.rear, linesOf], ?_⟩
      dsimp only
      rw [copies, flatten_pending_of_reaped reaped]
      simp [ParentPoint.rear, linesOf, output, parent]
  | @exit index child pending found stands here =>
      have same := copies.exiting found stands here
      have all : ∀ other ∈ state.streams.children,
          other = [] ∨ other = pending := by
        intro other member
        rw [copies] at member
        obtain ⟨child, _, rfl⟩ := List.mem_map.mp member
        rw [same]
        exact child.pending_eq _
      have pipes := map_set_of_eq Child.pipe found
        (rfl : Child.pipe { child with table := ∅, point := .zombie } =
          child.pipe)
      refine ⟨by simpa [linesOf] using parent, ?_⟩
      dsimp only
      rw [pipes, List.append_assoc, append_flatten_set_nil all stands]
      simpa [linesOf] using output

/-- The lines are those of the rounds that are over. -/
def Complete (partialSum : Pipe → Double) (fixed : Nat → Double → Bytes)
    (lines : List Bytes) (k : Nat) : Prop :=
  ∃ elapsed : List Double, elapsed.length + 1 = k ∧
    lines = elapsed.mapIdx fun i elapsed =>
      resultLine fixed (i + 1) (sumOf partialSum (i + 1) (i + 1)) elapsed

theorem Complete.count {lines : List Bytes} {k : Nat}
    (complete : Complete partialSum fixed lines k) :
    lines.length + 1 = k := by
  obtain ⟨elapsed, count, rfl⟩ := complete
  rw [List.length_mapIdx]
  exact count

theorem Change.complete (change : Change n fixed buffering state next events)
    (accounts : state.processes.Accounts partialSum) {lines : List Bytes}
    (complete : Complete partialSum fixed lines state.processes.parent.k) :
    Complete partialSum fixed (lines ++ linesOf fixed events)
      next.processes.parent.k := by
  cases change with
  | calm calm silent =>
      rw [silent, List.append_nil, calm.k]
      exact complete
  | fork | finish | exit => simpa [linesOf] using complete
  | @print elapsed _ _ _ here =>
      obtain ⟨clocks, count, rfl⟩ := complete
      have total := accounts.total (by rw [here]; trivial)
      rw [here] at total
      refine ⟨clocks ++ [elapsed], by simp [count], ?_⟩
      rw [linesOf_printed, List.mapIdx_concat, total, count]
      rfl

/-- The loop over `k` ends after its last round. -/
structure InRounds (n : Nat) (processes : State Double) : Prop where
  bounded : processes.parent.k ≤
    if processes.parent.point = .starting ∨
      processes.parent.point = .finished then n + 1 else n
  finished : processes.parent.point = .finished → n < processes.parent.k

theorem Move.inRounds {processes after : State Double}
    {moved : List (Event Double)}
    (move : Move n partialSum processes after moved)
    (inRounds : InRounds n processes) : InRounds n after := by
  obtain ⟨bounded, finished⟩ := inRounds
  cases move with
  | child => exact ⟨bounded, finished⟩
  | finish here all =>
      simp only [here, true_or, if_true] at bounded
      exact ⟨by simpa using bounded, fun _ => all⟩
  | start here more => exact ⟨by simpa using more, by simp⟩
  | print here =>
      simp only [here, reduceCtorEq, or_self, if_false] at bounded
      exact ⟨by simpa using bounded, by simp⟩
  | spawn here | spawned here | pipe here | fork here | closeWrite here
  | collect here | collected here | receive here | endOfFile here
  | closeRead here | childless here | reap here =>
      simp only [here, reduceCtorEq, or_self, if_false] at bounded
      exact ⟨by simpa using bounded, by simp⟩

end Steps

section Runs

variable [Zero Double] [Add Double]

theorem printingStep_processes {choice : Choice Double}
    (taken : printingStep n partialSum fixed buffering state choice =
      some (next, events)) :
    Move n partialSum state.processes next.processes (events.map Prod.fst) :=
  step_move (printingStep_change taken).1

/-- What holds however the streams are buffered. -/
structure Consistent (n : Nat) (inherited : Inherited)
    (partialSum : Pipe → Double) (fixed : Nat → Double → Bytes)
    (past : List (TimedEvent Double)) (state : Printing Double) : Prop where
  owns : state.processes.Owns inherited
  accounts : state.processes.Accounts partialSum
  inRounds : InRounds n state.processes
  copies : state.Copies
  complete : Complete partialSum fixed (linesOf fixed past)
    state.processes.parent.k
  sublist : (linesOf fixed past).flatten.Sublist
    (state.streams.output ++ state.streams.parent)

theorem Consistent.step {choice : Choice Double}
    (consistent : Consistent n inherited partialSum fixed past state)
    (taken : printingStep n partialSum fixed buffering state choice =
      some (next, events)) :
    Consistent n inherited partialSum fixed (past ++ events) next := by
  obtain ⟨owns, accounts, inRounds, copies, complete, sublist⟩ := consistent
  have move := printingStep_processes taken
  have change := (printingStep_change taken).2
  refine ⟨move.owns owns, move.accounts owns accounts, move.inRounds inRounds,
    change.copies accounts copies, ?_, change.sublist sublist⟩
  rw [linesOf_append]
  exact change.complete accounts complete

theorem initial_consistent :
    Consistent n inherited partialSum fixed []
      (printing n inherited partialSum fixed buffering).start where
  owns := run_owns (.refl _ : (zad1 n inherited partialSum).Run
    (zad1 n inherited partialSum).start [] _)
  accounts := initial_accounts inherited partialSum
  inRounds := ⟨by simp [printing, initial], by simp [printing, initial]⟩
  copies := rfl
  complete := ⟨[], rfl, rfl⟩
  sublist := List.Sublist.refl _

theorem run_consistent
    (run : (printing n inherited partialSum fixed buffering).Run
      (printing n inherited partialSum fixed buffering).start trace last) :
    Consistent n inherited partialSum fixed trace last :=
  run.history (Consistent n inherited partialSum fixed) initial_consistent
    fun consistent _ taken => consistent.step taken

theorem run_direct
    (run : (printing n inherited partialSum fixed .line).Run
      (printing n inherited partialSum fixed .line).start trace last) :
    Direct fixed trace last := by
  refine (run.history (fun past reached =>
    Consistent n inherited partialSum fixed past reached ∧
      Direct fixed past reached) ⟨initial_consistent, rfl, rfl⟩ ?_).2
  rintro past state choice next events ⟨consistent, direct⟩ _ taken
  exact ⟨consistent.step taken,
    (printingStep_change taken).2.direct consistent.copies direct⟩

theorem run_held
    (run : (printing n inherited partialSum fixed (.full capacity)).Run
      (printing n inherited partialSum fixed (.full capacity)).start trace last)
    (room : (linesOf fixed trace).flatten.length ≤ capacity) :
    Held (linesOf fixed trace) last := by
  refine (run.history (fun past reached =>
    Consistent n inherited partialSum fixed past reached ∧
      ((linesOf fixed past).flatten.length ≤ capacity →
        Held (linesOf fixed past) reached))
    ⟨initial_consistent, fun _ => ⟨rfl, rfl⟩⟩ ?_).2 room
  rintro past state choice next events ⟨consistent, held⟩ _ taken
  refine ⟨consistent.step taken, fun room => ?_⟩
  rw [linesOf_append] at room ⊢
  refine (printingStep_change taken).2.held consistent.accounts
    consistent.copies consistent.complete.count room (held ?_)
  rw [List.flatten_append, List.length_append] at room
  omega

/-- What the children of all rounds print again. -/
theorem reprinted_pipesUpTo (lines : List Bytes) (k : Nat) :
    reprinted lines (pipesUpTo k 0) = (List.range k).flatMap fun round =>
      (List.replicate round (lines.take (round - 1)).flatten).flatten := by
  rw [reprinted, pipesUpTo, List.range_zero, List.map_nil, List.append_nil,
    List.flatMap_assoc]
  apply List.flatMap_congr
  intro round _
  rw [List.flatMap_map]
  simp [List.flatMap_def]

/-- Nothing that the parent prints is lost.  On a terminal it comes out just so;
in a pipe or a file each of the k children of a round prints the lines of all
earlier rounds again. -/
theorem run_output
    (run : (printing n inherited partialSum fixed buffering).Run
      (printing n inherited partialSum fixed buffering).start trace last) :
    Complete partialSum fixed (linesOf fixed trace) last.processes.parent.k ∧
      (linesOf fixed trace).flatten.Sublist
        (last.streams.output ++ last.streams.parent) ∧
      (buffering = .line →
        last.streams.output = (linesOf fixed trace).flatten) ∧
      (last.processes.parent.point = .finished →
        (linesOf fixed trace).length = n ∧
        ∀ capacity, buffering = .full capacity →
          (linesOf fixed trace).flatten.length ≤ capacity →
          last.streams.output =
            ((List.range (n + 1)).flatMap fun k =>
              (List.replicate k
                ((linesOf fixed trace).take (k - 1)).flatten).flatten) ++
              (linesOf fixed trace).flatten) := by
  obtain ⟨_, accounts, inRounds, copies, complete, sublist⟩ :=
    run_consistent run
  refine ⟨complete, sublist, ?_, ?_⟩
  · rintro rfl
    exact (run_direct run).output
  · intro here
    have rounds : last.processes.parent.k = n + 1 := by
      have bounded := inRounds.bounded
      rw [if_pos (.inr here)] at bounded
      exact Nat.le_antisymm bounded (inRounds.finished here)
    refine ⟨by have count := complete.count; omega, ?_⟩
    rintro capacity rfl room
    have output := (run_held run room).output
    have reaped := accounts.allReaped (by rw [here]; rfl)
    rw [copies, flatten_pending_of_reaped reaped, List.append_nil,
      accounts.pipes, here, rounds] at output
    rw [output, ← reprinted_pipesUpTo]
    rfl

/-- Into a file, with values that are whole numbers. -/
private def intoFile (n : Nat) :
    Machine (Printing Nat) (Choice Nat) (TimedEvent Nat) :=
  printing n standard (fun pipe => 10 * pipe.round + pipe.index)
    (fun _ => fun value => decimal value) (.full 4096)

/-- Two rounds; in the second one the younger child finishes first. -/
private def twoLines : Printing Nat × List (TimedEvent Nat) :=
  ((intoFile 2).execute (fun _ _ => True) (intoFile 2).start
    (List.map (fun action => { action, elapsed := 7, early := 0 })
      (List.flatten [
        [.parent, .parent, .pipe ⟨3, 4⟩, .parent, .parent, .parent, .parent],
        List.replicate 5 (.child 0),
        [.parent, .parent, .wait 0, .parent, .parent, .parent, .parent,
          .pipe ⟨3, 4⟩, .parent, .parent, .parent, .pipe ⟨4, 5⟩, .parent,
          .parent, .parent, .parent],
        List.replicate 6 (.child 2), List.replicate 5 (.child 1),
        [.parent, .parent, .wait 2, .parent, .parent, .parent, .wait 1,
          .parent, .parent, .parent]]))).get (by decide +kernel)

/-- The line of the first round comes out three times. -/
theorem run_output_twoLines :
    ∃ first second, linesOf (fun _ => fun value : Nat => decimal value)
        twoLines.2 = [first, second] ∧
      twoLines.1.streams.output = first ++ first ++ first ++ second := by
  have run : (intoFile 2).Run (intoFile 2).start twoLines.2 twoLines.1 :=
    Machine.execute_get_runWithin _
  obtain ⟨_, _, _, finished⟩ := run_output run
  obtain ⟨count, output⟩ := finished (by decide +kernel)
  obtain ⟨first, second, lines⟩ := List.length_eq_two.mp count
  have all := output 4096 rfl (by decide +kernel)
  rw [lines] at all
  refine ⟨first, second, lines, all.trans ?_⟩
  simp [List.range_succ]

end Runs

end SysOp.Lab3.Zad1
