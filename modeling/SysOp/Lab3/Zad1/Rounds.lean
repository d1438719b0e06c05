import Mathlib.Data.Fintype.EquivFin
import SysOp.Lab3.Zad1.Collection

/-!
# The rounds of `zad1`

While the program runs somebody can take a step; each round leaves the parent
with the descriptors it had, no children, and the sum of all partial sums.
-/

namespace SysOp.Lab3.Zad1

open SysOp.Foundation

universe u

/-- What the parent has received, from which pipe. -/
def receivedIn {Double : Type u} (trace : List (Event Double)) :
    List (Pipe × Double) :=
  trace.filterMap fun
    | .received pipe value => some (pipe, value)
    | .printed _ _ => none

section Steps

variable {Double : Type u} {inherited : Inherited} {partialSum : Pipe → Double}

theorem Child.Owns.enabled {child : Child} (owns : child.Owns inherited)
    (alive : ¬ child.point.HasExited) (partialSum : Pipe → Double)
    (contents : Pipe → List Double) :
    (childStep partialSum contents child).isSome := by
  have described := owns.running alive
  have inside : ∀ {j}, j ≤ child.pipe.index →
      ∃ ends, child.fds[j]? = some ends := by
    intro j atMost
    have below : j < child.fds.length := by
      rw [owns.copied]
      exact Nat.lt_succ_of_le atMost
    exact ⟨_, List.getElem?_eq_getElem below⟩
  obtain ⟨own, found⟩ := inside (le_refl _)
  cases here : child.point with
  | closingOwn | closingWrite => simp [childStep, here, found]
  | closingElder j =>
      by_cases elder : j < child.pipe.index
      · obtain ⟨ends, foundElder⟩ := inside elder.le
        simp [childStep, here, elder, foundElder]
      · simp [childStep, here, elder]
  | writing =>
      rw [here] at described
      have opened : ChildPoint.IsOpen child.pipe.index .writing
          child.pipe.index .write := rfl
      have stands := described.lookup found opened
      rw [Ends.get] at stands
      simp [childStep, here, found, stands]
  | exiting => simp [childStep, here]
  | zombie | reaped =>
      rw [here] at alive
      exact absurd trivial alive

theorem Child.Owns.step_enabled [Zero Double] [Add Double] {n : Nat}
    {state : State Double} {child : Child} (owns : child.Owns inherited)
    (alive : ¬ child.point.HasExited) (present : child ∈ state.children) :
    ∃ action, (step n partialSum state action).isSome := by
  obtain ⟨index, found⟩ := List.getElem?_of_mem present
  refine ⟨.child index, ?_⟩
  obtain ⟨after, moved⟩ := Option.isSome_iff_exists.mp
    (owns.enabled alive partialSum state.contents)
  simp [step, moveAt, found, moved]

theorem pipe_enabled (state : State Double) {i : Nat}
    (here : state.parent.point = .piping i) :
    ∃ ends, (pipeStep ends state).isSome := by
  obtain ⟨read, readFree⟩ :=
    Infinite.exists_notMem_finset state.parent.table.keys
  obtain ⟨write, writeFree⟩ :=
    Infinite.exists_notMem_finset (insert read state.parent.table.keys)
  rw [Finset.mem_insert, not_or] at writeFree
  rw [Finmap.mem_keys] at readFree writeFree
  refine ⟨⟨read, write⟩, ?_⟩
  simp [pipeStep, here, readFree, writeFree.2, Ne.symm writeFree.1]

variable [Zero Double] [Add Double] {n : Nat} {state next : State Double}
  {events : List (Event Double)}

/-- The parent does not wait for a child that has written. -/
theorem reading_enabled (owns : state.Owns inherited)
    (accounts : state.Accounts partialSum) {i : Nat} {child : Child}
    (here : state.parent.point = .reading i) (present : child ∈ state.children)
    (own : child.pipe = ⟨state.parent.k, i⟩)
    (written : child.point.HasWritten) : (parentStep n state).isSome := by
  have opened := owns.opened
  have bounded := owns.bounded
  rw [here] at opened bounded
  have below : i < state.parent.fds.length := lt_of_lt_of_eq bounded opened.symm
  have found := List.getElem?_eq_getElem below
  have opened : state.parent.point.IsOpen i .read := by
    rw [here]
    exact le_refl i
  have stands := owns.parent.lookup found opened
  rw [Ends.get] at stands
  have full : state.contents ⟨state.parent.k, i⟩ =
      [partialSum ⟨state.parent.k, i⟩] := by
    rw [← own]
    cases accounts.children child present with
    | unsent unsent => exact absurd written unsent
    | sent _ _ full => exact full
    | received _ read =>
        rw [own, here, mem_pipesUpTo_iff] at read
        rcases read with ⟨earlier, _⟩ | ⟨_, less⟩
        · exact absurd earlier (lt_irrefl _)
        · exact absurd less (lt_irrefl _)
  simp [parentStep, here, found, stands, full]

/-- Somebody can move until the parent has finished. -/
theorem State.Owns.progress (owns : state.Owns inherited)
    (accounts : state.Accounts partialSum) :
    state.parent.point = .finished ∨
      ∃ action, (step n partialSum state action).isSome := by
  have bounded := owns.bounded
  have opened := owns.opened
  have inside : ∀ {i}, i < state.parent.fds.length →
      ∃ ends, state.parent.fds[i]? = some ends :=
    fun below => ⟨_, List.getElem?_eq_getElem below⟩
  cases here : state.parent.point with
  | finished => exact .inl rfl
  | starting | spawning | forking | collecting | printing =>
      exact .inr ⟨.parent, by simp [step, parentStep, here]⟩
  | piping i =>
      obtain ⟨ends, enabled⟩ := pipe_enabled state here
      exact .inr ⟨.pipe ends, enabled⟩
  | closingWrite i =>
      rw [here] at opened
      obtain ⟨ends, found⟩ :=
        inside (lt_of_lt_of_eq (Nat.lt_succ_self i) opened.symm)
      exact .inr ⟨.parent, by simp [step, parentStep, here, found]⟩
  | closingRead i =>
      rw [here] at opened bounded
      obtain ⟨ends, found⟩ := inside (lt_of_lt_of_eq bounded opened.symm)
      exact .inr ⟨.parent, by simp [step, parentStep, here, found]⟩
  | reading i =>
      rw [here] at bounded
      obtain ⟨child, present, own⟩ := accounts.exists_child
        (by rw [here]; exact bounded)
      by_cases written : child.point.HasWritten
      · exact .inr ⟨.parent,
          reading_enabled owns accounts here present own written⟩
      · refine .inr ((owns.children child present).step_enabled ?_ present)
        intro exited
        cases point : child.point with
        | zombie | reaped =>
            rw [point] at written
            exact written trivial
        | _ =>
            rw [point] at exited
            exact exited
  | waiting i =>
      by_cases reaped : state.AllReaped
      · exact .inr ⟨.parent, by simp [step, parentStep, here, reaped]⟩
      · simp only [State.AllReaped, not_forall] at reaped
        obtain ⟨child, present, unreaped⟩ := reaped
        by_cases exited : child.point = .zombie
        · obtain ⟨index, found⟩ := List.getElem?_of_mem present
          exact .inr ⟨.wait index, by
            simp [step, waitStep, here, found, exited]⟩
        · refine .inr ((owns.children child present).step_enabled ?_ present)
          intro gone
          cases point : child.point with
          | zombie => exact exited point
          | reaped => exact unreaped point
          | _ =>
              rw [point] at gone
              exact gone

/-- What the round's children sent, and what the parent has of it. -/
theorem Move.received (move : Move n partialSum state next events)
    (owns : state.Owns inherited) (accounts : state.Accounts partialSum) :
    (pipesUpTo next.parent.k (next.parent.point.received next.parent.k)).map
        (fun pipe => (pipe, partialSum pipe)) =
      (pipesUpTo state.parent.k
          (state.parent.point.received state.parent.k)).map
          (fun pipe => (pipe, partialSum pipe)) ++ receivedIn events := by
  have bounded := owns.bounded
  cases move with
  | receive here found stands full =>
      rw [here] at bounded
      cases owns.pipe_eq here found stands
      rw [receive_eq accounts bounded here full, here]
      dsimp only [ParentPoint.received]
      rw [pipesUpTo_succ, List.map_append]
      rfl
  | endOfFile here found stands empty deserted =>
      rw [here] at bounded
      exact absurd (reading_not_deserted owns accounts bounded here
        (owns.pipe_eq here found stands) empty) deserted
  | collected here all =>
      rw [here] at bounded ⊢
      cases le_antisymm bounded all
      exact (List.append_nil _).symm
  | print here =>
      rw [here]
      dsimp only [ParentPoint.received]
      rw [pipesUpTo_next]
      exact (List.append_nil _).symm
  | child => exact (List.append_nil _).symm
  | start here | finish here | spawn here | spawned here | pipe here
  | fork here | closeWrite here | collect here | closeRead here
  | childless here | reap here =>
      rw [here]
      exact (List.append_nil _).symm

/-- Only a round that is complete is printed. -/
theorem Move.printed (move : Move n partialSum state next events)
    (accounts : state.Accounts partialSum) {k : Nat} {total : Double}
    (membership : .printed k total ∈ events) :
    total = sumOf partialSum k k := by
  have sum := accounts.total
  cases move with
  | print here =>
      rw [here] at sum
      cases List.mem_singleton.mp membership
      exact sum trivial
  | receive => cases List.mem_singleton.mp membership
  | _ => cases membership

end Steps

section Runs

variable {Double : Type u} [Zero Double] [Add Double] {n : Nat}
  {inherited : Inherited} {partialSum : Pipe → Double}
  {trace : List (Event Double)} {last : State Double}

theorem initial_accounts (inherited : Inherited)
    (partialSum : Pipe → Double) :
    (initial inherited : State Double).Accounts partialSum where
  pipes := rfl
  unreaped := rfl
  children _ membership := by cases membership
  unused _ _ := rfl
  total := False.elim

theorem run_collected
    (steps : (zad1 n inherited partialSum).Run
      (zad1 n inherited partialSum).start trace last) :
    last.Accounts partialSum ∧
      receivedIn trace = (pipesUpTo last.parent.k
          (last.parent.point.received last.parent.k)).map
          (fun pipe => (pipe, partialSum pipe)) ∧
      ∀ k total, .printed k total ∈ trace →
        total = sumOf partialSum k k := by
  have invariant := steps.history (fun past state =>
    state.Owns inherited ∧ state.Accounts partialSum ∧
      receivedIn past = (pipesUpTo state.parent.k
          (state.parent.point.received state.parent.k)).map
          (fun pipe => (pipe, partialSum pipe)) ∧
      ∀ k total, .printed k total ∈ past → total = sumOf partialSum k k)
    ⟨run_owns (.refl _), initial_accounts inherited partialSum, rfl,
      fun _ _ membership => by cases membership⟩ ?_
  · exact invariant.2
  · rintro past state action next events ⟨owns, accounts, received, printed⟩ _
      taken
    have move := step_move taken
    refine ⟨move.owns owns, move.accounts owns accounts, ?_, ?_⟩
    · rw [move.received owns accounts, ← received]
      exact List.filterMap_append
    · intro k total membership
      rcases List.mem_append.mp membership with old | new
      · exact printed k total old
      · exact move.printed accounts new

/-- Once a child has exited nobody else can write to its pipe. -/
theorem not_hasWriter (owns : last.Owns inherited)
    (accounts : last.Accounts partialSum) {child : Child}
    (present : child ∈ last.children) (exited : child.point.HasExited)
    (closed : ¬ (child.pipe.round = last.parent.k ∧
      last.parent.point = .closingWrite child.pipe.index)) :
    ¬ last.HasWriter child.pipe := by
  rintro (parent | ⟨other, presentToo, opened⟩)
  · obtain ⟨round, forking | closing⟩ := owns.parent_writes parent
    · have member : child.pipe ∈ last.children.map Child.pipe :=
        List.mem_map_of_mem present
      rw [accounts.pipes, forking, mem_pipesUpTo_iff, round] at member
      rcases member with ⟨earlier, _⟩ | ⟨_, less⟩
      · exact lt_irrefl _ earlier
      · exact lt_irrefl _ less
    · exact closed ⟨round, closing⟩
  · have same := ((owns.children other presentToo).pipe_eq opened).1
    obtain ⟨i, found⟩ := List.getElem?_of_mem present
    obtain ⟨j, foundOther⟩ := List.getElem?_of_mem presentToo
    cases eq_of_pipe_eq accounts.nodup found foundOther same
    rw [found] at foundOther
    cases foundOther
    rw [(owns.children child present).exited exited] at opened
    exact DescriptorTable.not_hasOpen_empty _ opened

theorem State.Accounts.allReaped (accounts : last.Accounts partialSum)
    (between : last.parent.point.unreaped last.parent.k = 0) :
    last.AllReaped := by
  intro child present
  have none := accounts.unreaped
  rw [between, census_eq_zero_iff] at none
  have weight := none child present
  cases here : child.point with
  | reaped => rfl
  | _ =>
      rw [here] at weight
      cases weight

/-- The ends of the pipes are where they belong, so every round ends with all
partial sums added up, all children reaped and all pipes closed. -/
theorem pipes_owned
    (steps : (zad1 n inherited partialSum).Run
      (zad1 n inherited partialSum).start trace last) :
    (∀ pipe, last.parent.table.HasOpen (.pipe pipe .write) →
        pipe.round = last.parent.k ∧
          (last.parent.point = .forking pipe.index ∨
            last.parent.point = .closingWrite pipe.index)) ∧
      (∀ child ∈ last.children, ∀ pipe,
        child.table.HasOpen (.pipe pipe .write) → pipe = child.pipe) ∧
      (∀ child ∈ last.children, child.point.HasExited →
        ¬ (child.pipe.round = last.parent.k ∧
          last.parent.point = .closingWrite child.pipe.index) →
        ¬ last.HasWriter child.pipe) ∧
      (∀ i, last.parent.point = .reading i →
        ∃ child ∈ last.children, child.pipe = ⟨last.parent.k, i⟩ ∧
          (child.point.HasExited → (parentStep n last).isSome)) ∧
      receivedIn trace = (pipesUpTo last.parent.k
          (last.parent.point.received last.parent.k)).map
          (fun pipe => (pipe, partialSum pipe)) ∧
      (∀ k total, .printed k total ∈ trace →
        total = sumOf partialSum k k) ∧
      (last.parent.point = .starting ∨ last.parent.point = .finished →
        last.children.map Child.pipe = pipesUpTo last.parent.k 0 ∧
          last.AllReaped ∧ last.parent.table = inherited.table) ∧
      (last.parent.point = .finished ∨
        ∃ action, (step n partialSum last action).isSome) := by
  have owns := run_owns steps
  obtain ⟨accounts, received, printed⟩ := run_collected steps
  refine ⟨fun pipe => owns.parent_writes, ?_, ?_, ?_, received, printed, ?_,
    owns.progress accounts⟩
  · intro child present pipe opened
    exact ((owns.children child present).pipe_eq opened).1
  · intro child present exited closed
    exact not_hasWriter owns accounts present exited closed
  · intro i here
    have bounded := owns.bounded
    rw [here] at bounded
    obtain ⟨child, present, own⟩ := accounts.exists_child
      (by rw [here]; exact bounded)
    refine ⟨child, present, own, ?_⟩
    intro exited
    apply reading_enabled owns accounts here present own
    cases point : child.point with
    | zombie | reaped => trivial
    | _ =>
        rw [point] at exited
        exact absurd exited id
  · intro between
    have idle := ParentPoint.not_isOpen
      (between.imp_right (.inr : _ → _ ∨ last.parent.point = .finished))
    refine ⟨?_, accounts.allReaped ?_,
      owns.parent.eq_inherited fun j side _ => idle j side⟩
    · rw [accounts.pipes]
      rcases between with here | here <;> rw [here] <;> rfl
    · rcases between with here | here <;> rw [here] <;> rfl

/-- Standard input, output and error. -/
def standard : Inherited where
  table := (((∅ : Table).insert 0 (.other 0)).insert 1 (.other 1)).insert
    2 (.other 2)
  noPipes := by
    intro fd pipe side found
    simp at found

private def labelled (pipe : Pipe) : Nat := 10 * pipe.round + pipe.index

/-- In the second round the younger child finishes first and is reaped in the
place of the elder. -/
private def twoRoundsSchedule : List Action :=
  List.flatten [
    [.parent, .parent, .pipe ⟨3, 4⟩, .parent, .parent, .parent, .parent],
    List.replicate 5 (.child 0),
    [.parent, .parent, .wait 0, .parent, .parent, .parent, .parent,
      .pipe ⟨3, 4⟩, .parent, .parent, .parent, .pipe ⟨4, 5⟩, .parent,
      .parent, .parent, .parent],
    List.replicate 6 (.child 2), List.replicate 5 (.child 1),
    [.parent, .parent, .wait 2, .parent, .parent, .parent, .wait 1, .parent,
      .parent, .parent]]

private theorem twoRounds_executes :
    ((zad1 2 standard labelled).execute (fun _ _ => True) (initial standard)
      twoRoundsSchedule).isSome := by
  decide +kernel

private def twoRounds : State Nat × List (Event Nat) :=
  ((zad1 2 standard labelled).execute (fun _ _ => True) (initial standard)
    twoRoundsSchedule).get twoRounds_executes

theorem pipes_owned_twoRounds :
    .printed 2 41 ∈ twoRounds.2 ∧ 41 = sumOf labelled 2 2 ∧
      twoRounds.1.parent.table = standard.table := by
  have steps : (zad1 2 standard labelled).Run (initial standard) twoRounds.2
      twoRounds.1 := Machine.execute_get_runWithin twoRounds_executes
  obtain ⟨_, _, _, _, _, printed, finished, _⟩ := pipes_owned steps
  have last : .printed 2 41 ∈ twoRounds.2 := by decide +kernel
  have between : twoRounds.1.parent.point = .finished := by decide +kernel
  exact ⟨last, printed 2 41 last, (finished (.inr between)).2.2⟩

end Runs

end SysOp.Lab3.Zad1
