import SysOp.Lab3.Zad1.Moves

/-!
# Who has which end of which pipe open

A table is described by what was there before the first pipe and by the ends
its process has not closed yet.  A child has copies of the read ends of its
elders until it closes them; it never has one of their write ends.
-/

namespace SysOp.Lab3.Zad1

open SysOp.Foundation

universe u

/-- The table has the descriptors inherited and, of the pipes of one round, the
ends that are open. -/
def Described (inherited : Inherited) (round : Nat) (fds : List Ends)
    (isOpen : Nat → End → Prop) (table : Table) : Prop :=
  ∀ fd file, table.lookup fd = some file ↔
    inherited.table.lookup fd = some file ∨
      ∃ j ends side, fds[j]? = some ends ∧ isOpen j side ∧
        fd = ends.get side ∧ file = .pipe ⟨round, j⟩ side

namespace Described

variable {inherited : Inherited} {round : Nat} {fds : List Ends}
  {isOpen stillOpen : Nat → End → Prop} {table : Table}

theorem lookup (described : Described inherited round fds isOpen table)
    {i : Nat} {side : End} {ends : Ends} (found : fds[i]? = some ends)
    (opened : isOpen i side) :
    table.lookup (ends.get side) = some (.pipe ⟨round, i⟩ side) :=
  (described _ _).mpr (.inr ⟨i, ends, side, found, opened, rfl, rfl⟩)

theorem hasOpen_iff (described : Described inherited round fds isOpen table)
    (pipe : Pipe) (side : End) :
    table.HasOpen (.pipe pipe side) ↔
      pipe.round = round ∧ pipe.index < fds.length ∧
        isOpen pipe.index side := by
  rw [DescriptorTable.hasOpen_iff]
  constructor
  · rintro ⟨fd, found⟩
    rcases (described _ _).mp found with
      before | ⟨j, ends, side, there, opened, _, same⟩
    · exact absurd before inherited.noPipes
    · cases same
      exact ⟨rfl, (List.getElem?_eq_some_iff.mp there).1, opened⟩
  · rintro ⟨rfl, inside, opened⟩
    exact ⟨_, described.lookup (List.getElem?_eq_getElem inside) opened⟩

theorem congr (described : Described inherited round fds isOpen table)
    (same : ∀ j side, j < fds.length → (stillOpen j side ↔ isOpen j side)) :
    Described inherited round fds stillOpen table := by
  intro fd file
  rw [described fd file]
  apply or_congr_right
  constructor
  · rintro ⟨j, ends, side, found, opened, located⟩
    have inside := (List.getElem?_eq_some_iff.mp found).1
    exact ⟨j, ends, side, found, (same j side inside).mpr opened, located⟩
  · rintro ⟨j, ends, side, found, opened, located⟩
    have inside := (List.getElem?_eq_some_iff.mp found).1
    exact ⟨j, ends, side, found, (same j side inside).mp opened, located⟩

/-- Nothing is open but what was there before. -/
theorem eq_inherited (described : Described inherited round fds isOpen table)
    (closed : ∀ j side, j < fds.length → ¬ isOpen j side) :
    table = inherited.table := by
  apply Finmap.ext_lookup
  intro fd
  apply Option.ext
  intro file
  rw [described fd file]
  constructor
  · rintro (before | ⟨j, ends, side, found, opened, _⟩)
    · exact before
    · have inside := (List.getElem?_eq_some_iff.mp found).1
      exact absurd opened (closed j side inside)
  · exact .inl

theorem of_inherited (inherited : Inherited) (round : Nat) (fds : List Ends)
    (closed : ∀ j side, j < fds.length → ¬ isOpen j side) :
    Described inherited round fds isOpen inherited.table := by
  intro fd file
  constructor
  · exact .inl
  · rintro (before | ⟨j, ends, side, found, opened, _⟩)
    · exact before
    · have inside := (List.getElem?_eq_some_iff.mp found).1
      exact absurd opened (closed j side inside)

/-- `close` closes the end it is meant for and no other. -/
theorem close (described : Described inherited round fds isOpen table)
    {i : Nat} {side : End} {ends : Ends} (found : fds[i]? = some ends)
    (opened : isOpen i side)
    (left : ∀ j other, j < fds.length →
      (stillOpen j other ↔ isOpen j other ∧ ¬ (j = i ∧ other = side))) :
    Described inherited round fds stillOpen
      (table.erase (ends.get side)) := by
  have stands := described.lookup found opened
  intro fd file
  rw [DescriptorTable.lookup_erase_eq_some_iff, described fd file]
  constructor
  · rintro ⟨different, before | ⟨j, others, other, there, open', rfl, rfl⟩⟩
    · exact .inl before
    · have inside := (List.getElem?_eq_some_iff.mp there).1
      refine .inr ⟨j, others, other, there, ?_, rfl, rfl⟩
      apply (left j other inside).mpr
      refine ⟨open', ?_⟩
      rintro ⟨rfl, rfl⟩
      rw [found] at there
      cases there
      exact different rfl
  · rintro (before | ⟨j, others, other, there, still, rfl, rfl⟩)
    · refine ⟨?_, .inl before⟩
      rintro rfl
      rw [(described _ _).mpr (.inl before)] at stands
      cases stands
      exact inherited.noPipes before
    · have inside := (List.getElem?_eq_some_iff.mp there).1
      obtain ⟨open', kept⟩ := (left j other inside).mp still
      refine ⟨?_, .inr ⟨j, others, other, there, open', rfl, rfl⟩⟩
      intro same
      have known := described.lookup there open'
      rw [same, stands] at known
      cases known
      exact kept ⟨rfl, rfl⟩

/-- `pipe` opens both ends of one more pipe. -/
theorem pipe (described : Described inherited round fds isOpen table)
    {ends : Ends} (readFree : ends.get .read ∉ table)
    (writeFree : ends.get .write ∉ table)
    (different : ends.get .read ≠ ends.get .write)
    (more : ∀ j side, j < fds.length → (stillOpen j side ↔ isOpen j side))
    (opened : ∀ side, stillOpen fds.length side) :
    Described inherited round (fds ++ [ends]) stillOpen
      ((table.insert (ends.get .read) (.pipe ⟨round, fds.length⟩ .read)).insert
        (ends.get .write) (.pipe ⟨round, fds.length⟩ .write)) := by
  have free : ∀ {fd file} side, table.lookup fd = some file →
      fd ≠ ends.get side := by
    rintro fd file side found rfl
    have used := Finmap.mem_of_lookup_eq_some found
    cases side with
    | read => exact readFree used
    | write => exact writeFree used
  intro fd file
  rw [DescriptorTable.lookup_insert_eq_some_iff,
    DescriptorTable.lookup_insert_eq_some_iff]
  constructor
  · rintro (⟨rfl, rfl⟩ | ⟨_, ⟨rfl, rfl⟩ | ⟨_, found⟩⟩)
    · exact .inr ⟨_, ends, .write, List.getElem?_concat_length, opened _, rfl,
        rfl⟩
    · exact .inr ⟨_, ends, .read, List.getElem?_concat_length, opened _, rfl,
        rfl⟩
    · rcases (described _ _).mp found with
        before | ⟨j, others, side, there, open', located⟩
      · exact .inl before
      · have inside := (List.getElem?_eq_some_iff.mp there).1
        refine .inr ⟨j, others, side, ?_, (more j side inside).mpr open',
          located⟩
        rw [List.getElem?_append_left inside]
        exact there
  · intro after
    have known : table.lookup fd = some file ∨
        ∃ side, fd = ends.get side ∧
          file = .pipe ⟨round, fds.length⟩ side := by
      rcases after with before | ⟨j, others, side, there, still, rfl, rfl⟩
      · exact .inl ((described _ _).mpr (.inl before))
      · rcases getElem?_append_cases there with old | ⟨rfl, rfl⟩
        · have inside := (List.getElem?_eq_some_iff.mp old).1
          exact .inl (described.lookup old ((more j side inside).mp still))
        · exact .inr ⟨side, rfl, rfl⟩
    rcases known with found | ⟨side, rfl, rfl⟩
    · exact .inr ⟨free .write found, .inr ⟨free .read found, found⟩⟩
    · cases side with
      | read => exact .inr ⟨different, .inl ⟨rfl, rfl⟩⟩
      | write => exact .inl ⟨rfl, rfl⟩

end Described

/-- The pipes of its round whose read end a child has open. -/
@[simp]
def ChildPoint.Reads (index : Nat) : ChildPoint → Nat → Prop
  | .closingOwn, _ => True
  | .closingElder m, j => m ≤ j ∧ j ≠ index
  | .writing, _ | .closingWrite, _ | .exiting, _ | .zombie, _
  | .reaped, _ => False

@[simp]
def ChildPoint.Writes (index : Nat) : ChildPoint → Nat → Prop
  | .closingOwn, j | .closingElder _, j | .writing, j
  | .closingWrite, j => j = index
  | .exiting, _ | .zombie, _ | .reaped, _ => False

@[simp]
def ChildPoint.IsOpen (index : Nat) (point : ChildPoint) (j : Nat) :
    End → Prop
  | .read => point.Reads index j
  | .write => point.Writes index j

def ChildPoint.HasExited : ChildPoint → Prop
  | .zombie | .reaped => True
  | _ => False

/-- What a child has open is as its program says. -/
structure Child.Owns (inherited : Inherited) (child : Child) : Prop where
  copied : child.fds.length = child.pipe.index + 1
  exited : child.point.HasExited → child.table = ∅
  running : ¬ child.point.HasExited →
    Described inherited child.pipe.round child.fds
      (child.point.IsOpen child.pipe.index) child.table

/-- The pipes of the round whose read end the parent has open. -/
@[simp]
def ParentPoint.Reads : ParentPoint → Nat → Prop
  | .spawning _, _ | .piping _, _ | .forking _, _ | .closingWrite _, _ => True
  | .collecting i, j | .reading i, j | .closingRead i, j => i ≤ j
  | .waiting i, j => i < j
  | .starting, _ | .printing, _ | .finished, _ => False

@[simp]
def ParentPoint.Writes : ParentPoint → Nat → Prop
  | .forking i, j | .closingWrite i, j => j = i
  | _, _ => False

@[simp]
def ParentPoint.IsOpen (point : ParentPoint) (j : Nat) : End → Prop
  | .read => point.Reads j
  | .write => point.Writes j

/-- Between two rounds no pipe is open. -/
theorem ParentPoint.not_isOpen {point : ParentPoint}
    (idle : point = .starting ∨ point = .printing ∨ point = .finished)
    (j : Nat) (side : End) : ¬ point.IsOpen j side := by
  rcases idle with rfl | rfl | rfl <;> cases side <;> exact id

/-- How many pipes of the round have been opened. -/
def ParentPoint.opened (k : Nat) : ParentPoint → Nat
  | .spawning i | .piping i => i
  | .forking i | .closingWrite i => i + 1
  | .collecting _ | .reading _ | .closingRead _ | .waiting _ | .printing => k
  | .starting | .finished => 0

/-- The loop indices are within their bounds. -/
def ParentPoint.Bounded (k : Nat) : ParentPoint → Prop
  | .spawning i | .collecting i => i ≤ k
  | .piping i | .forking i | .closingWrite i
  | .reading i | .closingRead i | .waiting i => i < k
  | .starting | .printing | .finished => True

structure State.Owns {Double : Type u} (inherited : Inherited)
    (state : State Double) : Prop where
  bounded : state.parent.point.Bounded state.parent.k
  opened : state.parent.fds.length = state.parent.point.opened state.parent.k
  parent : Described inherited state.parent.k state.parent.fds
    state.parent.point.IsOpen state.parent.table
  children : ∀ child ∈ state.children, child.Owns inherited

section Steps

variable {Double : Type u} {inherited : Inherited} {partialSum : Pipe → Double}

theorem ChildMove.owns {contents written : Pipe → List Double}
    {child after : Child}
    (moved : ChildMove partialSum contents child written after)
    (owns : child.Owns inherited) : after.Owns inherited := by
  obtain ⟨copied, _, running⟩ := owns
  have atMost : ∀ {j}, j < child.fds.length → j ≤ child.pipe.index := by
    intro j inside
    rw [copied] at inside
    exact Nat.lt_succ_iff.mp inside
  cases moved with
  | closeOwn here found =>
      simp only [here] at running
      refine ⟨copied, False.elim, fun alive => ?_⟩
      refine (running alive).close found trivial ?_
      intro j side inside
      cases side with
      | read => simp
      | write => simp
  | @closeElder m ends here elder found =>
      simp only [here] at running
      refine ⟨copied, False.elim, fun alive => ?_⟩
      refine (running alive).close found ⟨le_refl m, elder.ne⟩ ?_
      intro j side inside
      cases side with
      | read =>
          simp only [ChildPoint.IsOpen, ChildPoint.Reads, and_true]
          omega
      | write => simp
  | @closed m here last =>
      simp only [here] at running
      refine ⟨copied, False.elim, fun alive => ?_⟩
      refine (running alive).congr ?_
      intro j side inside
      have below := atMost inside
      cases side with
      | read =>
          simp only [ChildPoint.IsOpen, ChildPoint.Reads, false_iff, not_and,
            not_not]
          omega
      | write => simp
  | write here found stands =>
      simp only [here] at running
      exact ⟨copied, False.elim, fun alive => running alive⟩
  | closeWrite here found =>
      simp only [here] at running
      refine ⟨copied, False.elim, fun alive => ?_⟩
      refine (running alive).close found rfl ?_
      intro j side inside
      cases side with
      | read => simp
      | write => simp
  | exit here => exact ⟨copied, fun _ => rfl, fun alive => absurd trivial alive⟩

/-- The parent has a write end open only until the child is forked. -/
theorem State.Owns.parent_writes {state : State Double}
    (owns : state.Owns inherited) {pipe : Pipe}
    (opened : state.parent.table.HasOpen (.pipe pipe .write)) :
    pipe.round = state.parent.k ∧
      (state.parent.point = .forking pipe.index ∨
        state.parent.point = .closingWrite pipe.index) := by
  obtain ⟨round, _, writes⟩ := (owns.parent.hasOpen_iff pipe .write).mp opened
  refine ⟨round, ?_⟩
  cases here : state.parent.point with
  | forking i | closingWrite i =>
      rw [here] at writes
      cases (writes : pipe.index = i)
      simp
  | _ =>
      rw [here] at writes
      exact absurd writes id

theorem Child.Owns.reap {child : Child} (owns : child.Owns inherited)
    (exited : child.point = .zombie) :
    { child with point := .reaped : Child }.Owns inherited := by
  refine ⟨owns.copied, fun _ => owns.exited ?_, fun alive => ?_⟩
  · rw [exited]
    trivial
  · exact absurd trivial alive

/-- The child has what the parent has at the fork. -/
theorem State.Owns.forked {state : State Double} (owns : state.Owns inherited)
    {i : Nat} (here : state.parent.point = .forking i) :
    Child.Owns inherited
      { pipe := ⟨state.parent.k, i⟩, fds := state.parent.fds,
        table := state.parent.table, point := .closingOwn } := by
  have opened := owns.opened
  have parent := owns.parent
  rw [here] at opened parent
  refine ⟨opened, False.elim, fun _ => parent.congr ?_⟩
  intro j side _
  cases side with
  | read => simp
  | write => simp

theorem State.Owns.piped {state : State Double} (owns : state.Owns inherited)
    {i : Nat} {ends : Ends} (here : state.parent.point = .piping i)
    (readFree : ends.get .read ∉ state.parent.table)
    (writeFree : ends.get .write ∉ state.parent.table)
    (different : ends.get .read ≠ ends.get .write) :
    Described inherited state.parent.k (state.parent.fds ++ [ends])
      (ParentPoint.IsOpen (.forking i))
      ((state.parent.table.insert (ends.get .read)
          (.pipe ⟨state.parent.k, i⟩ .read)).insert (ends.get .write)
        (.pipe ⟨state.parent.k, i⟩ .write)) := by
  have opened := owns.opened
  have parent := owns.parent
  rw [here] at opened parent
  have length : state.parent.fds.length = i := opened
  subst length
  apply parent.pipe readFree writeFree different
  · intro j side inside
    cases side with
    | read => simp
    | write => simp [inside.ne]
  · intro side
    cases side with
    | read => trivial
    | write => rfl

/-- A child that moves keeps to its program, and the others stay. -/
theorem State.Owns.set {state : State Double} (owns : state.Owns inherited)
    {index : Nat} {after : Child} (moved : after.Owns inherited) :
    ∀ child ∈ state.children.set index after, child.Owns inherited := by
  intro child membership
  rcases List.mem_or_eq_of_mem_set membership with old | rfl
  · exact owns.children child old
  · exact moved

variable [Zero Double] [Add Double] {n : Nat} {state next : State Double}
  {events : List (Event Double)}

theorem Move.owns (move : Move n partialSum state next events)
    (owns : state.Owns inherited) : next.Owns inherited := by
  have bounded := owns.bounded
  have opened := owns.opened
  have parent := owns.parent
  have children := owns.children
  cases move with
  | start here more =>
      simp only [here] at opened parent
      refine ⟨Nat.zero_le _, opened, ?_, children⟩
      refine parent.congr ?_
      intro j side inside
      rw [opened] at inside
      exact absurd inside (Nat.not_lt_zero j)
  | finish here all =>
      simp only [here] at opened parent
      exact ⟨trivial, opened, parent, children⟩
  | spawn here more =>
      simp only [here] at opened parent
      exact ⟨more, opened, parent, children⟩
  | @spawned i here all =>
      simp only [here] at bounded opened parent
      have same : i = state.parent.k := le_antisymm bounded all
      refine ⟨Nat.zero_le _, opened.trans same, ?_, children⟩
      refine parent.congr ?_
      intro j side inside
      cases side with
      | read => simp
      | write => simp
  | pipe here readFree writeFree different =>
      have described := owns.piped here readFree writeFree different
      simp only [here] at bounded opened
      refine ⟨bounded, ?_, described, children⟩
      rw [List.length_append, opened]
      rfl
  | fork here =>
      have child := owns.forked here
      simp only [here] at bounded opened parent
      refine ⟨bounded, opened, parent, ?_⟩
      intro other membership
      rcases List.mem_append.mp membership with old | new
      · exact children other old
      · cases List.mem_singleton.mp new
        exact child
  | @closeWrite i ends here found =>
      simp only [here] at bounded opened parent
      refine ⟨bounded, opened, ?_, children⟩
      refine parent.close found rfl ?_
      intro j side inside
      cases side with
      | read => simp
      | write => simp
  | collect here more =>
      simp only [here] at opened parent
      exact ⟨more, opened, parent, children⟩
  | @collected i here all =>
      simp only [here] at opened parent
      refine ⟨trivial, opened, ?_, children⟩
      refine parent.congr ?_
      intro j side inside
      rw [opened] at inside
      cases side with
      | read =>
          simp only [ParentPoint.IsOpen, ParentPoint.Reads, false_iff, not_le]
          exact lt_of_lt_of_le inside all
      | write => simp
  | receive here | endOfFile here =>
      simp only [here] at bounded opened parent
      exact ⟨bounded, opened, parent, children⟩
  | @closeRead i ends here found =>
      simp only [here] at bounded opened parent
      refine ⟨bounded, opened, ?_, children⟩
      refine parent.close found (le_refl i) ?_
      intro j side inside
      cases side with
      | read =>
          simp only [ParentPoint.IsOpen, ParentPoint.Reads, and_true]
          omega
      | write => simp
  | childless here =>
      simp only [here] at bounded opened parent
      exact ⟨bounded, opened, parent, children⟩
  | reap here found exited =>
      have reaped := (children _ (List.mem_of_getElem? found)).reap exited
      simp only [here] at bounded opened parent
      exact ⟨bounded, opened, parent, owns.set reaped⟩
  | print here =>
      simp only [here] at opened parent
      refine ⟨trivial, rfl, ?_, children⟩
      have closed := ParentPoint.not_isOpen (.inr (.inl rfl))
      rw [parent.eq_inherited fun j side _ => closed j side]
      refine .of_inherited inherited _ _ ?_
      intro j side inside
      exact absurd inside (Nat.not_lt_zero j)
  | child found moved =>
      have after := moved.owns (children _ (List.mem_of_getElem? found))
      exact ⟨bounded, opened, parent, owns.set after⟩

end Steps

section Runs

variable {Double : Type u} [Zero Double] [Add Double] {n : Nat}
  {inherited : Inherited} {partialSum : Pipe → Double}
  {trace : List (Event Double)} {last : State Double}

theorem run_owns
    (steps : (zad1 n inherited partialSum).Run
      (zad1 n inherited partialSum).start trace last) :
    last.Owns inherited := by
  have closed := ParentPoint.not_isOpen (.inl rfl)
  exact steps.invariant (State.Owns inherited)
    ⟨trivial, rfl, .of_inherited inherited _ _ fun j side _ => closed j side,
      fun _ membership => by cases membership⟩
    fun owns _ taken => (step_move taken).owns owns

end Runs

end SysOp.Lab3.Zad1
