import SysOp.Foundation.Population
import SysOp.Lab1.Zad2.Moves
import Mathlib.Data.List.Nodup
import Mathlib.Data.List.Range

/-!
# The family of `main`

Which children a process has is decided by the loop index at which it entered
the loop and by how far it has come: all of them if it goes through the whole
loop, none if it executes `child.out`.  A process gets through its waits only
when its last child has been reaped.
-/

namespace SysOp.Lab1.Zad2

open SysOp.Foundation

/-- The loop index at which a process would go on in the loop. -/
def start : Path → Nat
  | [] => 0
  | i :: _ => i + 1

/-- The process runs `main` to its end. -/
def Continues (succeeds : Path → Bool) (path : Path) : Prop :=
  path = [] ∨ succeeds path = false

instance (succeeds : Path → Bool) (path : Path) :
    Decidable (Continues succeeds path) :=
  inferInstanceAs (Decidable (_ ∨ _))

/-- The loop index up to which the process has forked children. -/
def reached (N : Nat) (succeeds : Path → Bool) (path : Path) : Point → Nat
  | .spawning i => i
  | .executing _ | .running => start path
  | .waiting _ | .printing => N
  | .exited | .reaped => if Continues succeeds path then N else start path

/-- Where a process can be. -/
def Proper (N : Nat) (succeeds : Path → Bool) (path : Path) : Point → Prop
  | .spawning i => Continues succeeds path ∧ start path ≤ i ∧ i ≤ N
  | .executing i => path.head? = some i
  | .running => ¬ Continues succeeds path
  | .waiting i => Continues succeeds path ∧ i ≤ N
  | .printing => Continues succeeds path
  | .exited => True
  | .reaped => path ≠ []

structure Family (N : Nat) (succeeds : Path → Bool) (state : State) : Prop where
  distinct : state.processes.Nodup
  root : [] ∈ state.processes
  child_iff : ∀ {j path}, j :: path ∈ state.processes ↔
    path ∈ state.processes ∧ start path ≤ j ∧
      j < reached N succeeds path (state.point path)
  proper : ∀ path ∈ state.processes,
    Proper N succeeds path (state.point path)

section States

variable {N : Nat} {succeeds : Path → Bool} {state : State}
  {path other : Path} {point : Point} {i : Nat}

theorem start_of_head (head : path.head? = some i) : start path = i + 1 := by
  cases path with
  | nil => cases head
  | cons j rest =>
      cases head
      rfl

theorem State.point_moveTo_self :
    (state.moveTo path point).point path = point :=
  Function.update_self ..

theorem State.point_moveTo_of_ne (different : other ≠ path) :
    (state.moveTo path point).point other = state.point other :=
  Function.update_of_ne different ..

theorem State.point_fork_parent :
    (state.fork path i).point path = .spawning (i + 1) :=
  (Function.update_of_ne (List.cons_ne_self i path).symm ..).trans
    (Function.update_self ..)

theorem State.point_fork_child :
    (state.fork path i).point (i :: path) = .executing i :=
  Function.update_self ..

theorem State.point_fork_of_ne (notParent : other ≠ path)
    (notChild : other ≠ i :: path) :
    (state.fork path i).point other = state.point other :=
  (Function.update_of_ne notChild ..).trans
    (Function.update_of_ne notParent ..)

theorem State.mem_fork :
    other ∈ (state.fork path i).processes ↔
      other ∈ state.processes ∨ other = i :: path := by
  rw [State.fork, List.mem_append, List.mem_singleton]

theorem lt_of_lt_reached (proper : Proper N succeeds path point)
    (after : start path ≤ i) (before : i < reached N succeeds path point) :
    i < N := by
  cases point with
  | spawning j => exact Nat.lt_of_lt_of_le before proper.2.2
  | executing | running => exact absurd before (Nat.not_lt.mpr after)
  | waiting | printing => exact before
  | exited | reaped =>
      simp only [reached] at before
      split at before
      · exact before
      · exact absurd before (Nat.not_lt.mpr after)

/-- No child is forked at N or later. -/
theorem Family.lt (family : Family N succeeds state)
    (child : i :: path ∈ state.processes) : i < N := by
  obtain ⟨present, after, before⟩ := family.child_iff.mp child
  exact lt_of_lt_reached (family.proper path present) after before

theorem Family.start_le (family : Family N succeeds state)
    (present : path ∈ state.processes) : start path ≤ N := by
  cases path with
  | nil => exact Nat.zero_le N
  | cons i path => exact family.lt present

/-- A move that forks nobody and keeps what has been forked. -/
theorem Family.moveTo (family : Family N succeeds state)
    (same : reached N succeeds path point =
      reached N succeeds path (state.point path))
    (proper : Proper N succeeds path point) :
    Family N succeeds (state.moveTo path point) where
  distinct := family.distinct
  root := family.root
  child_iff := by
    intro j parent
    rw [show (state.moveTo path point).processes = state.processes from rfl,
      family.child_iff]
    by_cases moved : parent = path
    · subst moved
      rw [State.point_moveTo_self, same]
    · rw [State.point_moveTo_of_ne moved]
  proper := by
    intro process present
    by_cases moved : process = path
    · subst moved
      rw [State.point_moveTo_self]
      exact proper
    · rw [State.point_moveTo_of_ne moved]
      exact family.proper process present

/-- The child to be forked is not there yet. -/
theorem Family.notMem (family : Family N succeeds state)
    (here : state.point path = .spawning i) : i :: path ∉ state.processes := by
  intro child
  have before := (family.child_iff.mp child).2.2
  rw [here] at before
  exact absurd before (Nat.lt_irrefl i)

theorem Family.fork (family : Family N succeeds state)
    (present : path ∈ state.processes) (here : state.point path = .spawning i)
    (more : i < N) : Family N succeeds (state.fork path i) := by
  have new := family.notMem here
  have proper := family.proper path present
  rw [here] at proper
  obtain ⟨continues, after, _⟩ := proper
  refine ⟨?_, State.mem_fork.mpr (.inl family.root), ?_, ?_⟩
  · exact List.nodup_append.mpr ⟨family.distinct, List.nodup_singleton _,
      fun old member child now same =>
        new (List.mem_singleton.mp now ▸ same ▸ member)⟩
  · intro j other
    rw [State.mem_fork, State.mem_fork, family.child_iff]
    by_cases parent : other = path
    · subst parent
      rw [State.point_fork_parent, here]
      simp only [reached, List.cons.injEq, and_true, present, true_and, true_or]
      omega
    · by_cases child : other = i :: path
      · subst child
        rw [State.point_fork_child]
        simp [new, reached, start]
      · rw [State.point_fork_of_ne parent child]
        simp [parent, child]
  · intro other member
    rcases State.mem_fork.mp member with before | rfl
    · by_cases parent : other = path
      · subst parent
        rw [State.point_fork_parent]
        exact ⟨continues, Nat.le_succ_of_le after, more⟩
      · rw [State.point_fork_of_ne parent (fun child => new (child ▸ before))]
        exact family.proper other before
    · rw [State.point_fork_child]
      rfl

end States

section Moves

variable {N : Nat} {succeeds : Path → Bool} {state next : State} {path : Path}
  {events : List Event}

theorem Move.family (move : Move N succeeds state path next events)
    (present : path ∈ state.processes) (family : Family N succeeds state) :
    Family N succeeds next := by
  have proper := family.proper path present
  have entered := family.start_le present
  cases move with
  | fork here more => exact family.fork present here more
  | spawned here all =>
      rw [here] at proper
      obtain ⟨continues, _, counted⟩ := proper
      apply family.moveTo
      · rw [here]
        exact Nat.le_antisymm all counted
      · exact ⟨continues, Nat.zero_le N⟩
  | execute here good =>
      rw [here] at proper
      apply family.moveTo
      · rw [here]
        rfl
      · rintro (root | bad)
        · rw [root] at proper
          cases proper
        · rw [good] at bad
          cases bad
  | fail here bad =>
      rw [here] at proper
      rw [start_of_head proper] at entered
      apply family.moveTo
      · rw [here]
        exact (start_of_head proper).symm
      · exact ⟨.inr bad, (start_of_head proper).le, entered⟩
  | exit here =>
      rw [here] at proper
      apply family.moveTo
      · rw [here]
        exact if_neg proper
      · trivial
  | nobody here more | waited here all =>
      rw [here] at proper
      apply family.moveTo
      · rw [here]
        rfl
      · first | exact ⟨proper.1, more⟩ | exact proper.1
  | @reap i j here more child exited =>
      rw [here] at proper
      have waiting :
          Family N succeeds (state.moveTo path (.waiting (i + 1))) := by
        apply family.moveTo
        · rw [here]
          rfl
        · exact ⟨proper.1, more⟩
      apply waiting.moveTo
      · rw [State.point_moveTo_of_ne (List.cons_ne_self j path), exited]
        rfl
      · exact List.cons_ne_nil j path
  | print here =>
      rw [here] at proper
      apply family.moveTo
      · rw [here]
        exact if_pos proper
      · trivial

end Moves

section Waits

variable {N : Nat} {succeeds : Path → Bool} {state next : State} {path : Path}
  {events : List Event}

theorem State.mem_children {child : Path} :
    child ∈ state.children path ↔
      child ∈ state.processes ∧ ∃ j, child = j :: path := by
  rw [State.children, List.mem_filter, decide_eq_true_eq]
  apply and_congr_right
  intro _
  cases child <;> simp [eq_comm]

/-- The children of a process, in some order. -/
theorem Family.children_perm (family : Family N succeeds state)
    (present : path ∈ state.processes) :
    (state.children path).Perm
      ((List.range' (start path)
        (reached N succeeds path (state.point path) - start path)).map
        (· :: path)) := by
  have distinct : (state.children path).Nodup := family.distinct.filter _
  apply (List.perm_ext_iff_of_nodup distinct ?_).mpr
  · intro child
    rw [State.mem_children, List.mem_map]
    constructor
    · rintro ⟨there, j, rfl⟩
      obtain ⟨_, after, before⟩ := family.child_iff.mp there
      exact ⟨j, List.mem_range'_1.mpr ⟨after, by omega⟩, rfl⟩
    · rintro ⟨j, inside, rfl⟩
      obtain ⟨after, before⟩ := List.mem_range'_1.mp inside
      exact ⟨family.child_iff.mpr ⟨present, after, by omega⟩, j, rfl⟩
  · apply List.Nodup.map _ List.nodup_range'
    intro i j same
    cases same
    rfl

theorem Family.reached_le (family : Family N succeeds state)
    (present : path ∈ state.processes) :
    reached N succeeds path (state.point path) ≤ N := by
  have proper := family.proper path present
  have entered := family.start_le present
  cases here : state.point path with
  | spawning i =>
      rw [here] at proper
      exact proper.2.2
  | executing | running => exact entered
  | waiting | printing => exact Nat.le_refl N
  | exited | reaped =>
      simp only [reached]
      split
      · exact Nat.le_refl N
      · exact entered

theorem Family.length_children (family : Family N succeeds state)
    (present : path ∈ state.processes) :
    (state.children path).length =
      reached N succeeds path (state.point path) - start path := by
  rw [(family.children_perm present).length_eq, List.length_map,
    List.length_range']

/-- The children that have not been waited for. -/
def State.unreaped (state : State) (path : Path) : Nat :=
  census (fun child => if state.point child = .reaped then 0 else 1)
    (state.children path)

/-- How many children may be left to wait for. -/
def allowance (N : Nat) (succeeds : Path → Bool) (path : Path) : Point → Nat
  | .waiting i => N - i
  | .printing => 0
  | .exited | .reaped => if Continues succeeds path then 0 else N
  | _ => N

/-- Waiting N times is enough. -/
def Gathered (N : Nat) (succeeds : Path → Bool) (state : State) : Prop :=
  ∀ path ∈ state.processes,
    state.unreaped path ≤ allowance N succeeds path (state.point path)

theorem State.childless_iff : state.Childless path ↔ state.unreaped path = 0 := by
  rw [State.unreaped, census_eq_zero_iff]
  apply forall₂_congr
  intro child _
  simp

theorem Family.unreaped_le (family : Family N succeeds state)
    (present : path ∈ state.processes) : state.unreaped path ≤ N := by
  have counted : state.unreaped path ≤ census (fun _ => 1) (state.children path) := by
    apply census_le_census
    intro child
    split <;> decide
  have length := family.length_children present
  have most := family.reached_le present
  have all : census (fun _ => 1) (state.children path) =
      (state.children path).length := by
    simp [census]
  omega

/-- Who is not reaped by a move counts as before. -/
theorem State.unreaped_moveTo_le {point : Point} {other : Path}
    (kept : state.point path = .reaped → point = .reaped) :
    (state.moveTo path point).unreaped other ≤ state.unreaped other := by
  apply census_le_census
  intro child
  by_cases moved : child = path
  · subst moved
    rw [State.point_moveTo_self]
    split <;> split <;> simp_all
  · rw [State.point_moveTo_of_ne moved]

/-- One child less is left to wait for. -/
theorem State.unreaped_reap {j : Nat} (distinct : state.processes.Nodup)
    (child : j :: path ∈ state.processes)
    (exited : state.point (j :: path) = .exited) :
    (state.moveTo (j :: path) .reaped).unreaped path + 1 =
      state.unreaped path := by
  have counted := census_update state.point
    (fun point => if point = .reaped then 0 else 1)
    (distinct.filter fun child => child.tail? = some path)
    (State.mem_children.mpr ⟨child, j, rfl⟩) .reaped
  rw [exited] at counted
  exact counted

theorem State.unreaped_fork {i : Nat} {other : Path}
    (here : state.point path = .spawning i)
    (new : i :: path ∉ state.processes) (different : other ≠ path) :
    (state.fork path i).unreaped other = state.unreaped other := by
  have same : (state.fork path i).children other = state.children other := by
    simp [State.children, State.fork, different.symm]
  rw [State.unreaped, same]
  apply census_congr
  intro child member
  have present := (State.mem_children.mp member).1
  by_cases parent : child = path
  · subst parent
    rw [State.point_fork_parent, here]
    rfl
  · rw [State.point_fork_of_ne parent (fun child => new (child ▸ present))]

theorem Gathered.moveTo {point : Point}
    (gathered : Gathered N succeeds state)
    (kept : state.point path = .reaped → point = .reaped)
    (allowed : (state.moveTo path point).unreaped path ≤
      allowance N succeeds path point) :
    Gathered N succeeds (state.moveTo path point) := by
  intro other member
  by_cases same : other = path
  · subst same
    rw [State.point_moveTo_self]
    exact allowed
  · rw [State.point_moveTo_of_ne same]
    exact (State.unreaped_moveTo_le kept).trans (gathered other member)

theorem Move.active (move : Move N succeeds state path next events) :
    state.point path ≠ .reaped := by
  cases move with
  | fork here | spawned here | execute here | fail here | exit here
  | nobody here | reap here | waited here | print here => simp [here]

theorem Move.gathered (move : Move N succeeds state path next events)
    (present : path ∈ state.processes) (family : Family N succeeds state)
    (gathered : Gathered N succeeds state) : Gathered N succeeds next := by
  have after := move.family present family
  have own := gathered path present
  have proper := family.proper path present
  have kept (point : Point) : state.point path = .reaped → point = .reaped :=
    fun reaped => absurd reaped move.active
  have fewer (point : Point) :
      (state.moveTo path point).unreaped path ≤ state.unreaped path :=
    State.unreaped_moveTo_le (kept point)
  cases move with
  | @fork i here more =>
      intro other member
      by_cases parent : other = path
      · subst parent
        rw [State.point_fork_parent]
        exact after.unreaped_le member
      · by_cases child : other = i :: path
        · subst child
          rw [State.point_fork_child]
          exact after.unreaped_le member
        · rw [State.point_fork_of_ne parent child,
            State.unreaped_fork here (family.notMem here) parent]
          exact gathered other
            ((State.mem_fork.mp member).resolve_right child)
  | spawned | execute | fail =>
      exact gathered.moveTo (kept _) (after.unreaped_le present)
  | exit here =>
      rw [here] at proper
      apply gathered.moveTo (kept _)
      rw [allowance, if_neg proper]
      exact after.unreaped_le present
  | @nobody i here more childless =>
      rw [State.childless_iff] at childless
      apply gathered.moveTo (kept _)
      exact (fewer (.waiting (i + 1))).trans (childless.trans_le (Nat.zero_le _))
  | waited here all =>
      rw [here, allowance, Nat.sub_eq_zero_of_le all] at own
      exact gathered.moveTo (kept _) ((fewer .printing).trans own)
  | print here =>
      rw [here] at own proper
      have continues : Continues succeeds path := proper
      apply gathered.moveTo (kept _)
      rw [allowance, if_pos continues]
      exact (fewer .exited).trans own
  | @reap i j here more child exited =>
      -- The child is moved first, so that the wait counts it already.
      have different : j :: path ≠ path := List.cons_ne_self j path
      have swapped :
          (state.moveTo path (.waiting (i + 1))).moveTo (j :: path) .reaped =
            (state.moveTo (j :: path) .reaped).moveTo path
              (.waiting (i + 1)) := by
        rw [State.moveTo, State.moveTo, State.moveTo, State.moveTo,
          Function.update_comm different]
      have reaped : Gathered N succeeds (state.moveTo (j :: path) .reaped) := by
        apply gathered.moveTo (fun _ => rfl)
        have allowed := gathered (j :: path) child
        rw [exited] at allowed
        exact (State.unreaped_moveTo_le fun _ => rfl).trans allowed
      have keptThen : (state.moveTo (j :: path) .reaped).point path = .reaped →
          Point.waiting (i + 1) = .reaped := by
        rw [State.point_moveTo_of_ne different.symm]
        exact kept _
      rw [swapped]
      apply reaped.moveTo keptThen
      have one := State.unreaped_reap family.distinct child exited
      have still :
          ((state.moveTo (j :: path) .reaped).moveTo path
            (.waiting (i + 1))).unreaped path ≤
              (state.moveTo (j :: path) .reaped).unreaped path :=
        State.unreaped_moveTo_le keptThen
      rw [here, allowance] at own
      rw [allowance]
      omega

end Waits

end SysOp.Lab1.Zad2
