import SysOp.Lab1.Zad3.Blocks

/-!
# What the parent finds

All children are there before the first `wait`, so no number is given twice, and
the parent gets through its waits only when every child has released the lock.
-/

namespace SysOp.Lab1.Zad3

open SysOp.Foundation

/-- The children the parent has forked. -/
def ParentPoint.forked (N : Nat) : ParentPoint → Nat
  | .spawning i => i
  | .waiting _ | .printing | .returned 0 => N
  | .removing | .returned (_ + 1) => 0

/-- The children the parent has not waited for yet. -/
def ParentPoint.unreaped (N : Nat) : ParentPoint → Nat
  | .spawning i => i
  | .waiting i => N - i
  | _ => 0

def ParentPoint.Counted (N : Nat) : ParentPoint → Prop
  | .spawning i | .waiting i => i ≤ N
  | _ => True

/-- All N waits have returned. -/
def ParentPoint.collected : ParentPoint → Bool
  | .printing | .returned 0 => true
  | _ => false

def Child.unreaped (child : Child) : Nat :=
  if child.point = .reaped then 0 else 1

def Child.releasedPid (child : Child) : Option Int :=
  if child.point.hasReleased then some child.pid else none

/-- Those who have released the lock, in the order of their forks. -/
def releasedPids (children : List Child) : List Int :=
  children.filterMap Child.releasedPid

structure Staffed (N : Nat) (past : List Event) (state : State) : Prop where
  unlocked : state.parent.point = .removing → state.file.lock = none
  counted : state.parent.point.Counted N
  length : state.children.length = state.parent.point.forked N
  unreaped : census Child.unreaped state.children =
    state.parent.point.unreaped N
  running : ∀ i, state.parent.point = .spawning i →
    ∀ child ∈ state.children, child.point ≠ .reaped
  distinct : (state.children.map Child.pid).Nodup
  released : (releasedIn past).Perm (releasedPids state.children)

section Children

variable {children : List Child} {child after : Child} {index : Nat}

theorem releasedPids_set (found : children[index]? = some child)
    (same : after.releasedPid = child.releasedPid) :
    releasedPids (children.set index after) = releasedPids children := by
  have keys := map_set_of_eq Child.releasedPid found same
  have list (children : List Child) : releasedPids children =
      (children.map Child.releasedPid).filterMap id := by
    rw [List.filterMap_map]
    rfl
  rw [list, list, keys]

/-- One more child has released the lock. -/
theorem releasedPids_set_perm (found : children[index]? = some child)
    (before : child.releasedPid = none)
    (now : after.releasedPid = some child.pid) :
    (releasedPids (children.set index after)).Perm
      (child.pid :: releasedPids children) := by
  obtain ⟨inside, rfl⟩ := List.getElem?_eq_some_iff.mp found
  have moved := (List.set_perm_cons_eraseIdx inside after).filterMap
    Child.releasedPid
  have rest := (List.getElem_cons_eraseIdx_perm inside).filterMap
    Child.releasedPid
  rw [List.filterMap_cons_some now] at moved
  rw [List.filterMap_cons_none before] at rest
  exact moved.trans (rest.cons _)

theorem releasedPids_sublist (children : List Child) :
    (releasedPids children).Sublist (children.map Child.pid) := by
  induction children with
  | nil => exact .slnil
  | cons child rest inductionHypothesis =>
      unfold releasedPids at inductionHypothesis ⊢
      by_cases released : child.point.hasReleased
      · have here : child.releasedPid = some child.pid := if_pos released
        rw [List.filterMap_cons_some here]
        exact inductionHypothesis.cons_cons _
      · have here : child.releasedPid = none := if_neg released
        rw [List.filterMap_cons_none here]
        exact inductionHypothesis.cons _

/-- Everybody waited for has released the lock. -/
theorem releasedPids_of_reaped
    (reaped : ∀ child ∈ children, child.point = .reaped) :
    releasedPids children = children.map Child.pid := by
  rw [releasedPids, ← List.filterMap_eq_map]
  apply List.filterMap_congr
  intro child member
  simp [Child.releasedPid, reaped child member, ChildPoint.hasReleased]

theorem releasedPids_append_running {pid : Int} :
    releasedPids (children ++ [⟨pid, [], .executing⟩]) =
      releasedPids children := by
  simp [releasedPids, Child.releasedPid, ChildPoint.hasReleased]

end Children

section Moves

variable {N M : Nat} {past events : List Event} {state next : State}

theorem ChildMove.unreaped {index : Nat} {file : OutputFile}
    {child after : Child}
    (move : ChildMove M state.file index child file after events) :
    child.unreaped = 1 ∧ after.unreaped = 1 := by
  cases move with
  | execute point | fopen point | lock point | more point | all point
  | fwrite point | fflush point | increment point | unlock point
  | fclose point => simp [Child.unreaped, point]

theorem ChildMove.released {index : Nat} {file : OutputFile}
    {child after : Child}
    (move : ChildMove M state.file index child file after events)
    (found : state.children[index]? = some child)
    (released : (releasedIn past).Perm (releasedPids state.children)) :
    (releasedIn (past ++ events)).Perm
      (releasedPids (state.children.set index after)) := by
  cases move with
  | unlock point =>
      have gained : (releasedPids
          (state.children.set index { child with point := .closing })).Perm
          (child.pid :: releasedPids state.children) := by
        apply releasedPids_set_perm found
        · simp [Child.releasedPid, point, ChildPoint.hasReleased]
        · simp [Child.releasedPid, ChildPoint.hasReleased]
      rw [releasedIn_append, releasedIn_released]
      exact (List.perm_append_singleton ..).trans
        ((released.cons _).trans gained.symm)
  | execute point | fopen point | lock point | more point | all point
  | fwrite point | fflush point | increment point | fclose point =>
      rw [List.append_nil, releasedPids_set found]
      · exact released
      · simp [Child.releasedPid, point, ChildPoint.hasReleased]

/-- A child that is forked gets a number nobody has. -/
theorem Staffed.fork {i : Nat} {pid : Int} (staffed : Staffed N past state)
    (here : state.parent.point = .spawning i) (more : i < N)
    (unused : state.Unused pid) :
    Staffed N past
      { state with
        parent := { state.parent with point := .spawning (i + 1) }
        children := state.children ++
          [{ pid, buffer := [], point := .executing }] } := by
  obtain ⟨_, _, length, unreaped, running, distinct, released⟩ := staffed
  rw [here] at length unreaped
  refine ⟨nofun, more, ?_, ?_, ?_, ?_, ?_⟩
  · rw [List.length_append, length]
    rfl
  · rw [census_append_singleton, unreaped]
    rfl
  · intro _ _ child member
    rcases List.mem_append.mp member with before | new
    · exact running i here child before
    · rw [List.mem_singleton.mp new]
      exact nofun
  · rw [List.map_append]
    refine distinct.append (List.nodup_singleton pid) ?_
    intro other member same
    obtain ⟨child, present, rfl⟩ := List.mem_map.mp member
    exact running i here child present
      (unused.2 child present (List.mem_singleton.mp same))
  · rw [releasedPids_append_running]
    exact released

/-- A child that is waited for keeps its number. -/
theorem Staffed.reap {i index : Nat} {child : Child}
    (staffed : Staffed N past state)
    (here : state.parent.point = .waiting i) (more : i < N)
    (found : state.children[index]? = some child)
    (exited : child.point = .zombie) :
    Staffed N past
      { state with
        parent := { state.parent with point := .waiting (i + 1) }
        children :=
          state.children.set index { child with point := .reaped } } := by
  obtain ⟨_, _, length, unreaped, _, distinct, released⟩ := staffed
  rw [here] at length unreaped
  refine ⟨nofun, more, ?_, ?_, nofun, ?_, ?_⟩
  · rw [List.length_set]
    exact length
  · have conserved := census_set Child.unreaped found
      { child with point := .reaped }
    simp only [Child.unreaped, exited, ParentPoint.unreaped]
      at conserved unreaped ⊢
    simp at conserved
    omega
  · have kept : (state.children.set index
        { child with point := .reaped }).map Child.pid =
        state.children.map Child.pid :=
      map_set_of_eq Child.pid found rfl
    exact (congrArg List.Nodup kept).mpr distinct
  · rw [releasedPids_set found]
    · exact released
    · simp [Child.releasedPid, exited, ChildPoint.hasReleased]

/-- A child that moves is still to be waited for. -/
theorem Staffed.child {index : Nat} {child after : Child} {file : OutputFile}
    (staffed : Staffed N past state)
    (found : state.children[index]? = some child)
    (move : ChildMove M state.file index child file after events) :
    Staffed N (past ++ events)
      { state with file, children := state.children.set index after } := by
  obtain ⟨_, counted, length, unreaped, running, distinct, released⟩ := staffed
  obtain ⟨before, now⟩ := move.unreaped
  refine ⟨?_, counted, ?_, ?_, ?_, ?_, move.released found released⟩
  · intro here
    rw [here] at length
    rw [List.length_eq_zero_iff.mp length] at found
    cases found
  · rw [List.length_set]
    exact length
  · rw [census, map_set_of_eq Child.unreaped found (now.trans before.symm)]
    exact unreaped
  · intro i here other member
    rcases List.mem_or_eq_of_mem_set member with old | rfl
    · exact running i here other old
    · intro reaped
      simp [Child.unreaped, reaped] at now
  · rw [map_set_of_eq Child.pid found move.pid]
    exact distinct

theorem Move.staffed (move : Move N M state next events)
    (staffed : Staffed N past state) : Staffed N (past ++ events) next := by
  obtain ⟨_, counted, length, unreaped, _, distinct, released⟩ := id staffed
  cases move with
  | remove here present =>
      rw [here] at length unreaped
      rw [List.append_nil]
      refine ⟨nofun, Nat.zero_le N, length, unreaped, ?_, distinct, released⟩
      intro _ _ child member
      rw [List.length_eq_zero_iff.mp length] at member
      cases member
  | absent here =>
      rw [here] at length unreaped
      rw [List.append_nil]
      exact ⟨nofun, trivial, length, unreaped, nofun, distinct, released⟩
  | fork here more positive small unused =>
      rw [List.append_nil]
      exact staffed.fork here more unused
  | @spawned i here all =>
      rw [here] at counted length unreaped
      obtain rfl := Nat.le_antisymm counted all
      rw [List.append_nil]
      exact ⟨nofun, Nat.zero_le i, length, unreaped, nofun, distinct, released⟩
  | reap here more found exited =>
      rw [List.append_nil]
      exact staffed.reap here more found exited
  | nobody here more reaped =>
      rw [here] at unreaped
      have none : census Child.unreaped state.children = 0 := by
        rw [census_eq_zero_iff]
        intro child member
        simp [Child.unreaped, reaped child member]
      rw [none, ParentPoint.unreaped] at unreaped
      omega
  | waited here all =>
      rw [here] at length unreaped
      rw [List.append_nil]
      refine ⟨nofun, trivial, length, ?_, nofun, distinct, released⟩
      rw [unreaped]
      exact Nat.sub_eq_zero_of_le all
  | print here =>
      rw [here] at length unreaped
      refine ⟨nofun, trivial, length, unreaped, nofun, distinct, ?_⟩
      rw [releasedIn_append]
      simpa [releasedIn] using released
  | child found move => exact staffed.child found move

/-- Nobody is there before the old file is removed. -/
theorem Staffed.nobody (staffed : Staffed N past state)
    (here : state.parent.point = .removing) :
    state.children = [] ∧ releasedIn past = [] := by
  have length := staffed.length
  rw [here] at length
  have nobody : state.children = [] := List.length_eq_zero_iff.mp length
  have released := staffed.released
  rw [nobody] at released
  exact ⟨nobody, released.eq_nil⟩

theorem Move.written (move : Move N M state next events)
    (staffed : Staffed N past state)
    (written : state.parent.point ≠ .removing → Written M past state)
    (removed : next.parent.point ≠ .removing) :
    Written M (past ++ events) next := by
  cases move with
  | remove here =>
      obtain ⟨nobody, silent⟩ := staffed.nobody here
      rw [List.append_nil]
      exact .of_nobody nobody (staffed.unlocked here) silent rfl
  | absent here none =>
      obtain ⟨nobody, silent⟩ := staffed.nobody here
      rw [List.append_nil]
      exact .of_nobody nobody (staffed.unlocked here) silent
        (by simp [State.content, none])
  | @fork i pid here more positive small =>
      have before := written (by simp [here])
      rw [List.append_nil]
      refine before.frame rfl rfl ?_ ?_ ?_
      · intro index child inside
        constructor
        · intro found
          rcases getElem?_append_cases found with old | ⟨_, rfl⟩
          · exact old
          · cases inside
        · intro found
          obtain ⟨present, _⟩ := List.getElem?_eq_some_iff.mp found
          rwa [List.getElem?_append_left present]
      · intro child member
        rcases List.mem_append.mp member with old | new
        · exact before.sound child old
        · rw [List.mem_singleton.mp new]
          exact ⟨positive, small, trivial, fun _ => rfl⟩
      · intro child member opened
        rcases List.mem_append.mp member with old | new
        · exact before.present child old opened
        · rw [List.mem_singleton.mp new] at opened
          cases opened
  | @reap i index child here more found exited =>
      have before := written (by simp [here])
      have member := List.mem_of_getElem? found
      rw [List.append_nil]
      refine before.frame rfl rfl ?_ ?_ ?_
      · intro other moved inside
        by_cases same : index = other
        · subst same
          obtain ⟨present, _⟩ := List.getElem?_eq_some_iff.mp found
          rw [List.getElem?_set_self present, found]
          constructor
          · rintro ⟨⟩
            cases inside
          · rintro ⟨⟩
            rw [exited] at inside
            cases inside
        · rw [List.getElem?_set_ne same]
      · intro other held
        rcases List.mem_or_eq_of_mem_set held with old | rfl
        · exact before.sound other old
        · have sound := before.sound child member
          exact ⟨sound.positive, sound.small, trivial,
            fun _ => sound.flushed (by simp [exited])⟩
      · intro other held opened
        rcases List.mem_or_eq_of_mem_set held with old | rfl
        · exact before.present other old opened
        · exact before.present child member (by rw [exited]; rfl)
  | spawned here | nobody here | waited here =>
      have before := written (by simp [here])
      rw [List.append_nil]
      exact before.frame rfl rfl (fun _ => Iff.rfl) before.sound before.present
  | print here =>
      have before := written (by simp [here])
      refine before.frame rfl ?_ (fun _ => Iff.rfl) before.sound before.present
      rw [releasedIn_append]
      exact List.append_nil _
  | child found move => exact move.written found (written removed)

end Moves

section Runs

variable {N M : Nat} {pid : Int} {old : Option Bytes} {trace : List Event}
  {last : State}

theorem initial_staffed : Staffed N [] (initial pid old) where
  unlocked _ := rfl
  counted := trivial
  length := rfl
  unreaped := rfl
  running := nofun
  distinct := .nil
  released := .nil

theorem run_written
    (steps : (zad3 N M pid old).Run (initial pid old) trace last) :
    Staffed N trace last ∧
      (last.parent.point ≠ .removing → Written M trace last) := by
  apply steps.history fun past state =>
    Staffed N past state ∧
      (state.parent.point ≠ .removing → Written M past state)
  · exact ⟨initial_staffed, fun removed => absurd rfl removed⟩
  · rintro past state action next events ⟨staffed, written⟩ _ taken
    have move := step_move taken
    exact ⟨move.staffed staffed, move.written staffed written⟩

/-- When the parent has got through its waits everybody has released the lock. -/
theorem Staffed.allReaped (staffed : Staffed N trace last)
    (collected : last.parent.point.collected) :
    last.children.length = N ∧ last.AllReaped := by
  have length := staffed.length
  have unreaped := staffed.unreaped
  have none : last.parent.point.unreaped N = 0 ∧
      last.parent.point.forked N = N := by
    revert collected
    cases last.parent.point with
    | printing => exact fun _ => ⟨rfl, rfl⟩
    | returned code =>
        cases code with
        | zero => exact fun _ => ⟨rfl, rfl⟩
        | succ => exact nofun
    | _ => exact nofun
  rw [none.1, census_eq_zero_iff] at unreaped
  refine ⟨length.trans none.2, fun child member => ?_⟩
  by_contra here
  have weight := unreaped child member
  rw [Child.unreaped, if_neg here] at weight
  cases weight

/-- Once the old file is gone the output is one block for each child that has
released the lock, and part of one for the child that has it.  After the waits
it is N blocks of different children. -/
theorem output_separate
    (steps : (zad3 N M pid old).Run (initial pid old) trace last)
    (removed : last.parent.point ≠ .removing) :
    (∃ part,
        last.content = (releasedIn trace).flatMap (block M) ++ part ∧
          (last.file.lock = none → part = []) ∧
          ∀ index, last.file.lock = some index →
            ∃ child, last.children[index]? = some child ∧
              part <+: block M child.pid) ∧
      (releasedIn trace).Nodup ∧
      (releasedIn trace).Perm (releasedPids last.children) ∧
      (last.parent.point.collected →
        last.content = (releasedIn trace).flatMap (block M) ∧
          (releasedIn trace).length = N ∧
          (releasedIn trace).Perm (last.children.map Child.pid)) := by
  obtain ⟨staffed, written⟩ := run_written steps
  obtain ⟨guards, sound, _, part, content, holds⟩ := written removed
  have nodup : (releasedIn trace).Nodup :=
    staffed.released.nodup_iff.mpr
      (staffed.distinct.sublist (releasedPids_sublist _))
  have free (unlocked : last.file.lock = none) : part = [] := by
    simpa only [State.Holds, unlocked] using holds
  refine ⟨⟨part, content, free, ?_⟩, nodup, staffed.released, ?_⟩
  · intro index locked
    simp only [State.Holds, locked] at holds
    obtain ⟨child, found, own⟩ := holds
    refine ⟨child, found, ?_⟩
    have counted := (sound child (List.mem_of_getElem? found)).counted
    exact (own ▸ List.prefix_append part child.buffer).trans
      (block_isPrefix counted.lines_le child.pid)
  · intro collected
    obtain ⟨length, reaped⟩ := staffed.allReaped collected
    have unlocked : last.file.lock = none := by
      apply Option.eq_none_iff_forall_ne_some.mpr
      intro index locked
      obtain ⟨child, found, inside⟩ := (guards index).mp locked
      rw [reaped child (List.mem_of_getElem? found)] at inside
      cases inside
    have everybody := staffed.released
    rw [releasedPids_of_reaped reaped] at everybody
    refine ⟨?_, ?_, everybody⟩
    · rw [content, free unlocked, List.append_nil]
    · rw [everybody.length_eq, List.length_map, length]

/-- One round of a child, whose stream passes on some bytes before the flush. -/
def round (index early : Nat) : List Action :=
  [.child index, .write index early, .child index, .child index]

/-- Child 1 holds the lock in the middle of its lines when child 0 comes. -/
private def meeting : List Action :=
  List.flatten
    [[.parent, .fork 11, .fork 12, .parent], List.replicate 3 (.child 1),
      round 1 3, [.child 0, .child 1, .child 0, .write 1 20]]

/-- Child 0 gets the lock before child 1 has closed its file. -/
private def handingOver : List Action :=
  List.flatten
    [List.replicate 4 (.child 1), [.child 0], round 0 0, [.child 1], round 0 5,
      List.replicate 3 (.child 0), [.wait 0, .wait 1, .parent]]

private def machine : Machine State Action Event := zad3 2 2 10 (some [])

private theorem met_executes :
    (machine.execute (fun _ _ => True) (initial 10 (some []))
      meeting).isSome := by decide +kernel

private theorem twoChildren_executes :
    (machine.execute (fun _ _ => True) (initial 10 (some []))
      (meeting ++ handingOver)).isSome := by decide +kernel

private def met : State × List Event :=
  (machine.execute (fun _ _ => True) (initial 10 (some [])) meeting).get
    met_executes

private def twoChildren : State × List Event :=
  (machine.execute (fun _ _ => True) (initial 10 (some []))
    (meeting ++ handingOver)).get twoChildren_executes

theorem output_separate_twoChildren :
    met.1.children.map Child.point = [.locking, .flushing 1] ∧
      (machine.step met.1 (.child 0)).isNone ∧
      releasedIn twoChildren.2 = [12, 11] ∧
      twoChildren.1.content = block 2 12 ++ block 2 11 := by
  have order : releasedIn twoChildren.2 = [12, 11] := by decide +kernel
  have separate := output_separate
    (Machine.execute_get_runWithin twoChildren_executes) (by decide +kernel)
  obtain ⟨content, _⟩ := separate.2.2.2 (by decide +kernel)
  have both : twoChildren.1.content =
      (releasedIn twoChildren.2).flatMap (block 2) := content
  rw [order] at both
  exact ⟨by decide +kernel, by decide +kernel, order, both⟩

end Runs

end SysOp.Lab1.Zad3
