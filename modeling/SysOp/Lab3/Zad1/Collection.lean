import Mathlib.Data.List.Nodup
import SysOp.Lab3.Zad1.Ownership

/-!
# Every partial sum is collected once

The children of a round finish in any order, and `wait` finds any of them; the
parent reads their pipes in the order of their numbers all the same.
-/

namespace SysOp.Lab3.Zad1

open SysOp.Foundation

universe u

/-- The pipes of all earlier rounds and the first ones of round `k`. -/
def pipesUpTo (k i : Nat) : List Pipe :=
  (List.range k).flatMap (fun round => (List.range round).map (Pipe.mk round)) ++
    (List.range i).map (Pipe.mk k)

theorem pipesUpTo_succ (k i : Nat) :
    pipesUpTo k (i + 1) = pipesUpTo k i ++ [⟨k, i⟩] := by
  simp [pipesUpTo, List.range_succ]

theorem pipesUpTo_next (k : Nat) : pipesUpTo (k + 1) 0 = pipesUpTo k k := by
  simp [pipesUpTo, List.range_succ]

theorem mem_pipesUpTo_iff {k i : Nat} {pipe : Pipe} :
    pipe ∈ pipesUpTo k i ↔
      pipe.round < k ∧ pipe.index < pipe.round ∨
        pipe.round = k ∧ pipe.index < i := by
  obtain ⟨round, index⟩ := pipe
  simp only [pipesUpTo, List.mem_append, List.mem_flatMap, List.mem_map,
    List.mem_range, Pipe.mk.injEq]
  constructor
  · rintro (⟨_, earlier, _, below, rfl, rfl⟩ | ⟨_, below, rfl, rfl⟩)
    · exact .inl ⟨earlier, below⟩
    · exact .inr ⟨rfl, below⟩
  · rintro (⟨earlier, below⟩ | ⟨rfl, below⟩)
    · exact .inl ⟨round, earlier, index, below, rfl, rfl⟩
    · exact .inr ⟨index, below, rfl, rfl⟩

private theorem nodup_pipesUpTo_of {k : Nat} (earlier : (pipesUpTo k 0).Nodup)
    (i : Nat) : (pipesUpTo k i).Nodup := by
  induction i with
  | zero => exact earlier
  | succ i inductionHypothesis =>
      rw [pipesUpTo_succ, ← List.concat_eq_append, List.nodup_concat]
      refine ⟨?_, inductionHypothesis⟩
      simp [mem_pipesUpTo_iff]

theorem nodup_pipesUpTo (k i : Nat) : (pipesUpTo k i).Nodup := by
  apply nodup_pipesUpTo_of
  induction k with
  | zero => exact List.nodup_nil
  | succ k inductionHypothesis =>
      rw [pipesUpTo_next]
      exact nodup_pipesUpTo_of inductionHypothesis k

/-- The first partial sums of a round, added in order. -/
def sumOf {Double : Type u} [Zero Double] [Add Double]
    (partialSum : Pipe → Double) (k i : Nat) : Double :=
  (List.range i).foldl (fun total j => total + partialSum ⟨k, j⟩) 0

theorem sumOf_succ {Double : Type u} [Zero Double] [Add Double]
    (partialSum : Pipe → Double) (k i : Nat) :
    sumOf partialSum k (i + 1) = sumOf partialSum k i + partialSum ⟨k, i⟩ := by
  simp [sumOf, List.range_succ]

def ChildPoint.HasWritten : ChildPoint → Prop
  | .closingWrite | .exiting | .zombie | .reaped => True
  | .closingOwn | .closingElder _ | .writing => False

/-- One for a child that has not been waited for. -/
def ChildPoint.unreaped : ChildPoint → Nat
  | .reaped => 0
  | _ => 1

/-- Where a child's partial sum is. -/
inductive Child.Accounted {Double : Type u} (partialSum : Pipe → Double)
    (contents : Pipe → List Double) (received : List Pipe) (child : Child) :
    Prop where
  | unsent (written : ¬ child.point.HasWritten)
      (unread : child.pipe ∉ received) (empty : contents child.pipe = [])
  | sent (written : child.point.HasWritten) (unread : child.pipe ∉ received)
      (full : contents child.pipe = [partialSum child.pipe])
  | received (written : child.point.HasWritten) (read : child.pipe ∈ received)
      (empty : contents child.pipe = [])

namespace ParentPoint

/-- How many children of the round have been forked. -/
def forked (k : Nat) : ParentPoint → Nat
  | .spawning i | .piping i | .forking i => i
  | .closingWrite i => i + 1
  | .collecting _ | .reading _ | .closingRead _ | .waiting _ | .printing => k
  | .starting | .finished => 0

/-- How many partial sums of the round have been received. -/
def received (k : Nat) : ParentPoint → Nat
  | .collecting i | .reading i => i
  | .closingRead i | .waiting i => i + 1
  | .printing => k
  | .starting | .finished | .spawning _ | .piping _ | .forking _
  | .closingWrite _ => 0

/-- How many children of the round have not been waited for. -/
def unreaped (k : Nat) : ParentPoint → Nat
  | .spawning i | .piping i | .forking i => i
  | .closingWrite i => i + 1
  | .collecting i | .reading i | .closingRead i | .waiting i => k - i
  | .starting | .printing | .finished => 0

def Collects : ParentPoint → Prop
  | .collecting _ | .reading _ | .closingRead _ | .waiting _ | .printing => True
  | .starting | .finished | .spawning _ | .piping _ | .forking _
  | .closingWrite _ => False

end ParentPoint

structure State.Accounts {Double : Type u} [Zero Double] [Add Double]
    (partialSum : Pipe → Double) (state : State Double) : Prop where
  pipes : state.children.map Child.pipe =
    pipesUpTo state.parent.k (state.parent.point.forked state.parent.k)
  unreaped : census (fun child => child.point.unreaped) state.children =
    state.parent.point.unreaped state.parent.k
  children : ∀ child ∈ state.children, child.Accounted partialSum state.contents
    (pipesUpTo state.parent.k (state.parent.point.received state.parent.k))
  unused : ∀ pipe, pipe ∉ state.children.map Child.pipe →
    state.contents pipe = []
  total : state.parent.point.Collects → state.parent.totalSum =
    sumOf partialSum state.parent.k (state.parent.point.received state.parent.k)

section Steps

variable {Double : Type u} {inherited : Inherited} {partialSum : Pipe → Double}

theorem Child.Accounted.congr {contents after : Pipe → List Double}
    {received : List Pipe} {child moved : Child}
    (accounted : child.Accounted partialSum contents received)
    (pipe : moved.pipe = child.pipe)
    (written : moved.point.HasWritten ↔ child.point.HasWritten)
    (same : after child.pipe = contents child.pipe) :
    moved.Accounted partialSum after received := by
  cases accounted with
  | unsent notWritten unread empty =>
      rw [← written] at notWritten
      exact .unsent notWritten (by rwa [pipe]) (by rwa [pipe, same])
  | sent hasWritten unread full =>
      rw [← written] at hasWritten
      exact .sent hasWritten (by rwa [pipe]) (by rwa [pipe, same])
  | received hasWritten read empty =>
      rw [← written] at hasWritten
      exact .received hasWritten (by rwa [pipe]) (by rwa [pipe, same])

/-- Two children have two pipes. -/
theorem eq_of_pipe_eq {children : List Child} {i j : Nat} {first second : Child}
    (nodup : (children.map Child.pipe).Nodup)
    (found : children[i]? = some first) (foundOther : children[j]? = some second)
    (same : first.pipe = second.pipe) : i = j := by
  have inside : i < (children.map Child.pipe).length := by
    simpa using (List.getElem?_eq_some_iff.mp found).1
  apply (List.getElem?_inj inside nodup).mp
  rw [List.getElem?_map, List.getElem?_map, found, foundOther, Option.map_some,
    Option.map_some, same]

/-- The only write end a child can have open is its own. -/
theorem Child.Owns.pipe_eq {child : Child} (owns : child.Owns inherited)
    {pipe : Pipe} (opened : child.table.HasOpen (.pipe pipe .write)) :
    pipe = child.pipe ∧ child.point.Writes child.pipe.index pipe.index := by
  by_cases exited : child.point.HasExited
  · rw [owns.exited exited] at opened
    exact absurd opened (DescriptorTable.not_hasOpen_empty _)
  · obtain ⟨round, _, writes⟩ :=
      ((owns.running exited).hasOpen_iff pipe .write).mp opened
    refine ⟨?_, writes⟩
    obtain ⟨_, index⟩ := pipe
    have same : index = child.pipe.index := by
      cases here : child.point with
      | closingOwn | closingElder | writing | closingWrite =>
          simpa [here] using writes
      | exiting | zombie | reaped => simp [here] at writes
    cases same
    cases (round : _ = _)
    rfl

/-- A child that has not written yet can. -/
theorem Child.Owns.hasOpen {child : Child} (owns : child.Owns inherited)
    (unsent : ¬ child.point.HasWritten) :
    child.table.HasOpen (.pipe child.pipe .write) := by
  have running : ¬ child.point.HasExited ∧
      child.point.Writes child.pipe.index child.pipe.index := by
    cases here : child.point with
    | closingOwn | closingElder | writing => exact ⟨id, rfl⟩
    | closingWrite | exiting | zombie | reaped =>
        rw [here] at unsent
        exact absurd trivial unsent
  rw [(owns.running running.1).hasOpen_iff, owns.copied]
  exact ⟨rfl, Nat.lt_succ_self _, running.2⟩

/-- What can be read from a pipe is what its child has written. -/
theorem Child.Accounted.full {contents : Pipe → List Double}
    {received : List Pipe} {child : Child} {value : Double}
    {rest : List Double}
    (accounted : child.Accounted partialSum contents received)
    (full : contents child.pipe = value :: rest) :
    child.point.HasWritten ∧ child.pipe ∉ received ∧
      value = partialSum child.pipe ∧ rest = [] := by
  cases accounted with
  | unsent _ _ empty | received _ _ empty =>
      rw [empty] at full
      cases full
  | sent written unread once =>
      rw [once] at full
      cases full
      exact ⟨written, unread, rfl, rfl⟩

theorem Child.Accounted.receive {contents : Pipe → List Double}
    {received : List Pipe} {child : Child} {pipe : Pipe} {value : Double}
    {rest : List Double}
    (accounted : child.Accounted partialSum contents received)
    (full : contents pipe = value :: rest) :
    child.Accounted partialSum (Function.update contents pipe rest)
      (received ++ [pipe]) := by
  by_cases same : child.pipe = pipe
  · subst same
    obtain ⟨written, _, _, rfl⟩ := accounted.full full
    refine .received written ?_ (Function.update_self _ _ _)
    exact List.mem_append_right _ (List.mem_singleton_self _)
  · have kept : Function.update contents pipe rest child.pipe =
        contents child.pipe := Function.update_of_ne same _ _
    have membership : child.pipe ∈ received ++ [pipe] ↔
        child.pipe ∈ received := by
      simp [same]
    cases accounted with
    | unsent written unread empty =>
        rw [← membership] at unread
        exact .unsent written unread (kept.trans empty)
    | sent written unread once =>
        rw [← membership] at unread
        exact .sent written unread (kept.trans once)
    | received written read empty =>
        rw [← membership] at read
        exact .received written read (kept.trans empty)

theorem ChildMove.accounted {contents after : Pipe → List Double}
    {received : List Pipe} {child moved : Child}
    (move : ChildMove partialSum contents child after moved)
    (owns : child.Owns inherited)
    (accounted : child.Accounted partialSum contents received) :
    moved.Accounted partialSum after received ∧
      moved.pipe = child.pipe ∧ moved.point.unreaped = child.point.unreaped ∧
      ∀ pipe, pipe ≠ child.pipe → after pipe = contents pipe := by
  cases move with
  | write here found stands =>
      have own := (owns.pipe_eq (DescriptorTable.hasOpen_iff.mpr
        ⟨_, stands⟩)).1
      subst own
      refine ⟨?_, rfl, by rw [here]; rfl, ?_⟩
      · cases accounted with
        | unsent _ unread empty =>
            refine .sent trivial unread ?_
            rw [Function.update_self, empty]
            rfl
        | sent written | received written =>
            rw [here] at written
            exact absurd written id
      · intro pipe different
        exact Function.update_of_ne different _ _
  | closeOwn here | closeElder here | closed here | closeWrite here
  | exit here =>
      refine ⟨accounted.congr rfl ?_ rfl, rfl, ?_, fun _ _ => rfl⟩
      · rw [here]
        rfl
      · rw [here]
        rfl

/-- What the parent reads from is the pipe of the round. -/
theorem State.Owns.pipe_eq {state : State Double} (owns : state.Owns inherited)
    {i : Nat} {ends : Ends} {pipe : Pipe}
    (here : state.parent.point = .reading i)
    (found : state.parent.fds[i]? = some ends)
    (stands : state.parent.table.lookup (ends.get .read) =
      some (.pipe pipe .read)) : pipe = ⟨state.parent.k, i⟩ := by
  have opened : state.parent.point.IsOpen i .read := by
    rw [here]
    exact le_refl i
  rw [owns.parent.lookup found opened] at stands
  cases stands
  rfl

variable [Zero Double] [Add Double] {n : Nat} {state next : State Double}
  {events : List (Event Double)}

/-- A step of the parent that concerns neither children nor pipes. -/
theorem State.Accounts.quiet (accounts : state.Accounts partialSum)
    (children : next.children = state.children)
    (contents : next.contents = state.contents)
    (forked : pipesUpTo next.parent.k (next.parent.point.forked next.parent.k) =
      pipesUpTo state.parent.k (state.parent.point.forked state.parent.k))
    (received : pipesUpTo next.parent.k
        (next.parent.point.received next.parent.k) =
      pipesUpTo state.parent.k (state.parent.point.received state.parent.k))
    (unreaped : next.parent.point.unreaped next.parent.k =
      state.parent.point.unreaped state.parent.k)
    (total : next.parent.point.Collects → next.parent.totalSum =
      sumOf partialSum next.parent.k
        (next.parent.point.received next.parent.k)) :
    next.Accounts partialSum where
  pipes := by rw [children, forked, accounts.pipes]
  unreaped := by rw [children, unreaped, accounts.unreaped]
  children := by
    rw [children, contents, received]
    exact accounts.children
  unused := by
    rw [children, contents]
    exact accounts.unused
  total := total

/-- The child the parent is reading from. -/
theorem State.Accounts.exists_child (accounts : state.Accounts partialSum)
    {i : Nat} (below : i < state.parent.point.forked state.parent.k) :
    ∃ child ∈ state.children, child.pipe = ⟨state.parent.k, i⟩ := by
  apply List.mem_map.mp
  rw [accounts.pipes, mem_pipesUpTo_iff]
  exact .inr ⟨rfl, below⟩

theorem State.Accounts.nodup (accounts : state.Accounts partialSum) :
    (state.children.map Child.pipe).Nodup := by
  rw [accounts.pipes]
  exact nodup_pipesUpTo _ _

theorem fork_accounts {i : Nat} {fds : List Ends} {table : Table}
    {parent : Parent Double} (accounts : state.Accounts partialSum)
    (k : parent.k = state.parent.k)
    (before : state.parent.point = .forking i)
    (after : parent.point = .closingWrite i) :
    { state with
        parent
        children := state.children ++
          [{ pipe := ⟨state.parent.k, i⟩, fds, table,
             point := .closingOwn }] : State Double }.Accounts partialSum := by
  obtain ⟨pipes, unreaped, children, unused, _⟩ := accounts
  rw [before] at pipes unreaped children
  have fresh : ∀ j, (⟨state.parent.k, i⟩ : Pipe) ∈ pipesUpTo state.parent.k j →
      i < j := by
    intro j membership
    rcases mem_pipesUpTo_iff.mp membership with ⟨earlier, _⟩ | ⟨_, below⟩
    · exact absurd earlier (lt_irrefl _)
    · exact below
  refine ⟨?_, ?_, ?_, ?_, ?_⟩
  · rw [List.map_append, pipes, after, k]
    exact (pipesUpTo_succ _ _).symm
  · rw [census_append_singleton, unreaped, after]
    rfl
  · rw [after, k]
    intro child membership
    rcases List.mem_append.mp membership with old | new
    · exact children child old
    · cases List.mem_singleton.mp new
      refine .unsent id ?_ (unused _ ?_)
      · exact fun received => Nat.not_lt_zero i (fresh 0 received)
      · rw [pipes]
        exact fun forked => lt_irrefl i (fresh i forked)
  · intro pipe absent
    apply unused
    intro present
    apply absent
    rw [List.map_append]
    exact List.mem_append_left _ present
  · rw [after]
    exact False.elim

/-- The parent receives what the child computed. -/
theorem receive_eq {i : Nat} {value : Double} {rest : List Double}
    (accounts : state.Accounts partialSum) (below : i < state.parent.k)
    (here : state.parent.point = .reading i)
    (full : state.contents ⟨state.parent.k, i⟩ = value :: rest) :
    value = partialSum ⟨state.parent.k, i⟩ := by
  obtain ⟨child, present, pipe⟩ := accounts.exists_child
    (by rw [here]; exact below)
  rw [← pipe] at full ⊢
  exact ((accounts.children child present).full full).2.2.1

theorem receive_accounts {i : Nat} {value : Double} {rest : List Double}
    {parent : Parent Double} (accounts : state.Accounts partialSum)
    (below : i < state.parent.k) (here : state.parent.point = .reading i)
    (full : state.contents ⟨state.parent.k, i⟩ = value :: rest)
    (k : parent.k = state.parent.k) (after : parent.point = .closingRead i)
    (added : parent.totalSum = state.parent.totalSum + value) :
    { state with
        parent
        contents := Function.update state.contents ⟨state.parent.k, i⟩
          rest : State Double }.Accounts partialSum := by
  have received := receive_eq accounts below here full
  obtain ⟨child, present, pipe⟩ := accounts.exists_child
    (by rw [here]; exact below)
  obtain ⟨pipes, unreaped, children, unused, total⟩ := accounts
  rw [here] at pipes unreaped children total
  refine ⟨?_, ?_, ?_, ?_, ?_⟩
  · rw [after, k]
    exact pipes
  · rw [after, k]
    exact unreaped
  · rw [after, k]
    intro other membership
    have next := (children other membership).receive full
    dsimp only [ParentPoint.received] at next ⊢
    rw [pipesUpTo_succ]
    exact next
  · intro other absent
    have different : other ≠ ⟨state.parent.k, i⟩ := by
      rintro rfl
      exact absent (List.mem_map.mpr ⟨child, present, pipe⟩)
    exact (Function.update_of_ne different _ _).trans (unused other absent)
  · rw [after, k, added, total trivial, received]
    intro _
    exact (sumOf_succ _ _ _).symm

/-- The parent never reads end-of-file: while the child has not written, it
could. -/
theorem reading_not_deserted (owns : state.Owns inherited)
    (accounts : state.Accounts partialSum) {i : Nat} {pipe : Pipe}
    (below : i < state.parent.k) (here : state.parent.point = .reading i)
    (same : pipe = ⟨state.parent.k, i⟩) (empty : state.contents pipe = []) :
    state.HasWriter pipe := by
  obtain ⟨child, present, own⟩ := accounts.exists_child
    (by rw [here]; exact below)
  rw [← same] at own
  subst own
  refine .inr ⟨child, present, ?_⟩
  apply (owns.children child present).hasOpen
  intro written
  cases accounts.children child present with
  | unsent unsent => exact unsent written
  | sent _ _ full =>
      rw [empty] at full
      cases full
  | received _ read =>
      rw [here, same, mem_pipesUpTo_iff] at read
      rcases read with ⟨earlier, _⟩ | ⟨_, less⟩
      · exact lt_irrefl _ earlier
      · exact lt_irrefl _ less

theorem child_accounts {index : Nat} {child after : Child}
    {contents : Pipe → List Double} (owns : state.Owns inherited)
    (accounts : state.Accounts partialSum)
    (found : state.children[index]? = some child)
    (moved : ChildMove partialSum state.contents child contents after) :
    { state with
        contents
        children := state.children.set index after : State
          Double }.Accounts partialSum := by
  have nodup := accounts.nodup
  obtain ⟨pipes, unreaped, children, unused, total⟩ := accounts
  have present := List.mem_of_getElem? found
  obtain ⟨accounted, pipe, weight, elsewhere⟩ :=
    moved.accounted (owns.children child present) (children child present)
  have map := map_set_of_eq Child.pipe found pipe
  refine ⟨map.trans pipes, ?_, ?_, ?_, total⟩
  · have counted := census_set (fun child => child.point.unreaped) found after
    rw [weight, unreaped] at counted
    exact Nat.add_right_cancel counted
  · intro other membership
    obtain ⟨position, there⟩ := List.getElem?_of_mem membership
    rcases getElem?_set_cases there with ⟨_, rfl⟩ | ⟨different, old⟩
    · exact accounted
    · have stayed := children other (List.mem_of_getElem? old)
      refine stayed.congr rfl Iff.rfl (elsewhere _ ?_)
      intro same
      exact different (eq_of_pipe_eq nodup old found same)
  · dsimp only
    rw [map]
    intro other absent
    rw [elsewhere other ?_, unused other absent]
    rintro rfl
    exact absent (List.mem_map_of_mem present)

theorem reap_accounts {i index : Nat} {child : Child}
    {parent : Parent Double} (accounts : state.Accounts partialSum)
    (below : i < state.parent.k) (here : state.parent.point = .waiting i)
    (found : state.children[index]? = some child)
    (exited : child.point = .zombie) (k : parent.k = state.parent.k)
    (sum : parent.totalSum = state.parent.totalSum)
    (after : parent.point = .collecting (i + 1)) :
    { state with
        parent
        children := state.children.set index
          { child with point := .reaped } : State
            Double }.Accounts partialSum := by
  obtain ⟨pipes, unreaped, children, unused, total⟩ := accounts
  rw [here] at pipes unreaped children total
  have map : (state.children.set index { child with point := .reaped }).map
      Child.pipe = state.children.map Child.pipe :=
    map_set_of_eq Child.pipe found rfl
  refine ⟨?_, ?_, ?_, ?_, ?_⟩
  · dsimp only
    rw [map, pipes, after, k]
    rfl
  · have counted := census_set (fun child => child.point.unreaped) found
      { child with point := .reaped }
    rw [exited, unreaped] at counted
    have fewer : ParentPoint.unreaped state.parent.k (.waiting i) =
        state.parent.k - (i + 1) + 1 := (Nat.sub_add_cancel
          (Nat.sub_pos_of_lt below)).symm
    rw [fewer] at counted
    rw [after, k]
    exact Nat.add_right_cancel counted
  · rw [after, k]
    intro other membership
    rcases List.mem_or_eq_of_mem_set membership with old | rfl
    · exact children other old
    · refine (children child (List.mem_of_getElem? found)).congr rfl ?_ rfl
      rw [exited]
      rfl
  · dsimp only
    rw [map]
    exact unused
  · rw [after, k, sum]
    exact total

theorem Move.accounts (move : Move n partialSum state next events)
    (owns : state.Owns inherited) (accounts : state.Accounts partialSum) :
    next.Accounts partialSum := by
  have bounded := owns.bounded
  have total := accounts.total
  cases move with
  | start here | finish here | spawn here | pipe here | closeWrite here =>
      refine accounts.quiet rfl rfl ?_ ?_ ?_ False.elim <;> rw [here] <;> rfl
  | spawned here all =>
      rw [here] at bounded
      cases le_antisymm bounded all
      refine accounts.quiet rfl rfl ?_ ?_ ?_ fun _ => rfl <;> rw [here] <;> rfl
  | collect here | closeRead here =>
      rw [here] at total
      refine accounts.quiet rfl rfl ?_ ?_ ?_ total <;> rw [here] <;> rfl
  | collected here all =>
      rw [here] at bounded total
      cases le_antisymm bounded all
      refine accounts.quiet rfl rfl ?_ ?_ ?_ total <;> rw [here]
      · rfl
      · rfl
      · exact (Nat.sub_self _).symm
  | print here =>
      refine accounts.quiet rfl rfl ?_ ?_ ?_ False.elim <;> rw [here]
      · exact pipesUpTo_next _
      · exact pipesUpTo_next _
      · rfl
  | fork here => exact fork_accounts accounts rfl here rfl
  | @receive i ends pipe value rest here found stands full =>
      rw [here] at bounded
      cases owns.pipe_eq here found stands
      exact receive_accounts accounts bounded here full rfl rfl rfl
  | endOfFile here found stands empty deserted =>
      rw [here] at bounded
      exact absurd (reading_not_deserted owns accounts bounded here
        (owns.pipe_eq here found stands) empty) deserted
  | @childless i here reaped =>
      have none : census (fun child => child.point.unreaped)
          state.children = 0 := by
        rw [census_eq_zero_iff]
        intro child membership
        rw [reaped child membership]
        rfl
      have some := accounts.unreaped
      rw [none, here] at some
      rw [here] at bounded
      exact absurd some.symm (Nat.sub_ne_zero_of_lt bounded)
  | reap here found exited =>
      rw [here] at bounded
      exact reap_accounts accounts bounded here found exited rfl rfl rfl
  | child found moved => exact child_accounts owns accounts found moved

end Steps

end SysOp.Lab3.Zad1
