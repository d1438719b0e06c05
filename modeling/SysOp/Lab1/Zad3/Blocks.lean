import SysOp.Lab1.Zad3.Moves
import Mathlib.Data.List.Perm.Basic

/-!
# The blocks of `output.txt`

The file consists of one block for each child that has released the lock, in
the order of their releases, and of what the child that has it has passed on so
far.  Nothing stays behind in a stream: each line is flushed before the next,
and so before the lock is released.
-/

namespace SysOp.Lab1.Zad3

open SysOp.Foundation

/-- Between `flock(fd, LOCK_EX)` and `flock(fd, LOCK_UN)`. -/
def ChildPoint.inside : ChildPoint → Bool
  | .testing _ | .writing _ | .flushing _ | .stepping _ | .unlocking => true
  | _ => false

def ChildPoint.hasOpened : ChildPoint → Bool
  | .executing | .opening => false
  | _ => true

def ChildPoint.hasReleased : ChildPoint → Bool
  | .closing | .zombie | .reaped => true
  | _ => false

/-- The loop has not gone beyond M. -/
def ChildPoint.Counted (M : Nat) : ChildPoint → Prop
  | .testing i => i ≤ M
  | .writing i | .flushing i | .stepping i => i < M
  | _ => True

/-- The lines that `fwrite` has been given. -/
def ChildPoint.lines (M : Nat) : ChildPoint → Nat
  | .testing i | .writing i => i
  | .flushing i | .stepping i => i + 1
  | .unlocking => M
  | _ => 0

/-- So many lines of one child. -/
def block (lines : Nat) (pid : Int) : Bytes :=
  (List.replicate lines (line pid)).flatten

/-- Those who have released the lock, in this order. -/
def releasedIn (trace : List Event) : List Int :=
  trace.filterMap fun
    | .released pid => some pid
    | .printed _ => none

def State.inside (state : State) (index : Nat) : Prop :=
  ∃ child, state.children[index]? = some child ∧ child.point.inside

structure Child.Sound (M : Nat) (child : Child) : Prop where
  positive : 0 < child.pid
  small : child.pid ≤ INT_MAX
  counted : child.point.Counted M
  flushed : (∀ i, child.point ≠ .flushing i) → child.buffer = []

/-- The part that is there of the block of whoever has the lock. -/
def State.Holds (M : Nat) (state : State) (part : Bytes) : Prop :=
  match state.file.lock with
  | none => part = []
  | some index =>
      ∃ child, state.children[index]? = some child ∧
        part ++ child.buffer = block (child.point.lines M) child.pid

structure Written (M : Nat) (past : List Event) (state : State) : Prop where
  guards : state.file.lock.Guards state.inside
  sound : ∀ child ∈ state.children, child.Sound M
  present : ∀ child ∈ state.children, child.point.hasOpened →
    state.file.content.isSome
  blocks : ∃ part,
    state.content = (releasedIn past).flatMap (block M) ++ part ∧
      state.Holds M part

section Lines

theorem zero_notMem_line (pid : Int) : (0 : UInt8) ∉ line pid := by
  simp only [line, List.mem_append, not_or]
  exact ⟨⟨by decide, zero_notMem_decimal pid⟩, by decide⟩

/-- A line fits into `buf`. -/
theorem message_eq_line {pid : Int} (counted : IsInt pid) :
    message pid = line pid := by
  have digits := length_decimal_le counted
  have before : (bytes "Potomek (").length = 9 := by decide
  have behind : (bytes ")\n").length = 2 := by decide
  have short : (line pid).length < 32 := by
    rw [line, List.length_append, List.length_append, before, behind]
    omega
  rw [message, snprintf_of_length_lt short,
    cString_of_notMem (zero_notMem_line pid)]

theorem block_succ (lines : Nat) (pid : Int) :
    block (lines + 1) pid = block lines pid ++ line pid := by
  rw [block, List.replicate_succ', List.flatten_append, ← block]
  simp

theorem block_isPrefix {lines M : Nat} (le : lines ≤ M) (pid : Int) :
    block lines pid <+: block M pid := by
  obtain ⟨rest, rfl⟩ := Nat.exists_eq_add_of_le le
  rw [block, block, List.replicate_add, List.flatten_append]
  exact List.prefix_append ..

theorem releasedIn_append (earlier later : List Event) :
    releasedIn (earlier ++ later) = releasedIn earlier ++ releasedIn later :=
  List.filterMap_append

theorem ChildPoint.Counted.lines_le {M : Nat} {point : ChildPoint}
    (counted : point.Counted M) : point.lines M ≤ M := by
  cases point with
  | testing | flushing | stepping => exact counted
  | writing => exact Nat.le_of_lt counted
  | unlocking => exact Nat.le_refl _
  | _ => exact Nat.zero_le _

theorem Child.Sound.message_eq {M : Nat} {child : Child}
    (sound : child.Sound M) : message child.pid = line child.pid := by
  apply message_eq_line
  exact ⟨le_trans (by decide) (Int.le_of_lt sound.positive), sound.small⟩

theorem releasedIn_released (pid : Int) :
    releasedIn [.released pid] = [pid] := rfl

end Lines

section Child

variable {M index : Nat} {state : State} {file : OutputFile}
  {child after : Child} {past events : List Event}

theorem ChildMove.pid
    (move : ChildMove M state.file index child file after events) :
    after.pid = child.pid := by
  cases move <;> rfl

theorem ChildMove.sound
    (move : ChildMove M state.file index child file after events)
    (sound : child.Sound M) : after.Sound M := by
  obtain ⟨positive, small, counted, flushed⟩ := sound
  cases move with
  | execute here | fopen here | unlock here =>
      exact ⟨positive, small, trivial, fun _ => flushed (by simp [here])⟩
  | lock here =>
      exact ⟨positive, small, Nat.zero_le M,
        fun _ => flushed (by simp [here])⟩
  | more here more =>
      exact ⟨positive, small, more, fun _ => flushed (by simp [here])⟩
  | all here =>
      exact ⟨positive, small, trivial, fun _ => flushed (by simp [here])⟩
  | fwrite here =>
      rw [here] at counted
      exact ⟨positive, small, counted, fun none => absurd rfl (none _)⟩
  | fflush here | fclose here =>
      rw [here] at counted
      exact ⟨positive, small, counted, fun _ => rfl⟩
  | increment here =>
      rw [here] at counted
      exact ⟨positive, small, counted, fun _ => flushed (by simp [here])⟩

/-- What is left of the state when one child has moved. -/
abbrev State.moved (state : State) (file : OutputFile) (index : Nat)
    (after : Child) : State :=
  { state with file, children := state.children.set index after }

theorem State.inside_iff (found : state.children[index]? = some child) :
    state.inside index ↔ child.point.inside := by
  simp [State.inside, found]

theorem State.inside_moved (found : state.children[index]? = some child)
    (other : Nat) :
    (state.moved file index after).inside other ↔
      (other = index ∧ after.point.inside) ∨
        (other ≠ index ∧ state.inside other) := by
  obtain ⟨present, _⟩ := List.getElem?_eq_some_iff.mp found
  by_cases same : index = other
  · subst same
    simp [State.inside, present]
  · simp [State.inside, List.getElem?_set_ne same, Ne.symm same]

theorem ChildMove.guards
    (move : ChildMove M state.file index child file after events)
    (found : state.children[index]? = some child)
    (guards : state.file.lock.Guards state.inside) :
    file.lock.Guards (state.moved file index after).inside := by
  have here := State.inside_iff found
  have keep (same : after.point.inside = child.point.inside) (other : Nat) :
      (state.moved file index after).inside other ↔ state.inside other := by
    rw [State.inside_moved found, same, ← here]
    by_cases moved : other = index
    · simp [moved]
    · simp [moved]
  cases move with
  | lock point free =>
      apply guards.lock free
      intro other
      rw [State.inside_moved found]
      simp [ChildPoint.inside]
      tauto
  | unlock point =>
      apply guards.unlock (here.mpr (by rw [point]; rfl))
      intro other
      rw [State.inside_moved found]
      simp [ChildPoint.inside]
  | execute point | fopen point | more point | all point | fwrite point | fflush point
  | increment point | fclose point =>
      exact guards.keep (keep (by rw [point]; rfl))

theorem ChildMove.present
    (move : ChildMove M state.file index child file after events)
    (found : state.children[index]? = some child)
    (present : ∀ child ∈ state.children, child.point.hasOpened →
      state.file.content.isSome) :
    ∀ other ∈ (state.moved file index after).children,
      other.point.hasOpened → file.content.isSome := by
  have kept (there : state.file.content.isSome) : file.content.isSome := by
    cases move <;> simp [OutputFile.append, there]
  intro other member opened
  rcases List.mem_or_eq_of_mem_set member with before | rfl
  · exact kept (present other before opened)
  · have own := present child (List.mem_of_getElem? found)
    cases move with
    | execute => cases opened
    | fopen => rfl
    | lock point | more point | all point | fwrite point | fflush point
    | increment point | unlock point | fclose point =>
        exact kept (own (by rw [point]; rfl))

theorem State.content_append {text : Bytes}
    (present : state.file.content.isSome) :
    (state.moved (state.file.append text) index after).content =
      state.content ++ text := by
  obtain ⟨content, there⟩ := Option.isSome_iff_exists.mp present
  simp [State.content, OutputFile.append, there]

section Holds

variable {part : Bytes}

theorem State.content_moved (same : file.content.getD [] = state.content)
    (content : state.content = (releasedIn past).flatMap (block M) ++ part) :
    (state.moved file index after).content =
      (releasedIn (past ++ [])).flatMap (block M) ++ part := by
  rw [List.append_nil, ← content]
  exact same

/-- Who has the lock is not concerned when another child moves. -/
theorem State.Holds.other (holds : state.Holds M part)
    (guards : state.file.lock.Guards state.inside)
    (found : state.children[index]? = some child)
    (outside : child.point.inside = false)
    (same : file.lock = state.file.lock) :
    (state.moved file index after).Holds M part := by
  unfold State.Holds at holds ⊢
  simp only [same]
  split
  case h_1 free => simpa only [free] using holds
  case h_2 owner locked =>
    simp only [locked] at holds
    have different : index ≠ owner := by
      rintro rfl
      have inside := (State.inside_iff found).mp ((guards _).mp locked)
      rw [outside] at inside
      cases inside
    rw [List.getElem?_set_ne different]
    exact holds

theorem State.holds_own (found : state.children[index]? = some child)
    (locked : file.lock = some index)
    (own : part ++ after.buffer =
      block (after.point.lines M) after.pid) :
    (state.moved file index after).Holds M part := by
  obtain ⟨present, _⟩ := List.getElem?_eq_some_iff.mp found
  simp only [State.Holds, locked]
  exact ⟨after, List.getElem?_set_self present, own⟩

/-- The file ends with what the child inside has passed on. -/
theorem Written.own (written : Written M past state)
    (found : state.children[index]? = some child)
    (inside : child.point.inside) :
    state.file.lock = some index ∧
      ∃ part, state.content = (releasedIn past).flatMap (block M) ++ part ∧
        part ++ child.buffer = block (child.point.lines M) child.pid := by
  have locked : state.file.lock = some index :=
    (written.guards index).mpr ((State.inside_iff found).mpr inside)
  obtain ⟨part, content, holds⟩ := written.blocks
  simp only [State.Holds, locked, found] at holds
  obtain ⟨_, same, own⟩ := holds
  cases same
  exact ⟨locked, part, content, own⟩

theorem ChildMove.blocks
    (move : ChildMove M state.file index child file after events)
    (found : state.children[index]? = some child)
    (written : Written M past state) :
    ∃ part,
      (state.moved file index after).content =
          (releasedIn (past ++ events)).flatMap (block M) ++ part ∧
        (state.moved file index after).Holds M part := by
  have sound := written.sound child (List.mem_of_getElem? found)
  have present := written.present child (List.mem_of_getElem? found)
  cases move with
  | execute point | fopen point =>
      obtain ⟨part, content, holds⟩ := written.blocks
      exact ⟨part, State.content_moved rfl content,
        holds.other written.guards found (by rw [point]; rfl) rfl⟩
  | lock point free =>
      obtain ⟨part, content, holds⟩ := written.blocks
      simp only [State.Holds, free] at holds
      subst holds
      exact ⟨[], State.content_moved rfl content,
        State.holds_own found rfl (sound.flushed (by simp [point]))⟩
  | more point | increment point =>
      obtain ⟨locked, part, content, own⟩ :=
        written.own found (by rw [point]; rfl)
      rw [point] at own
      exact ⟨part, State.content_moved rfl content,
        State.holds_own found locked own⟩
  | all point all =>
      obtain ⟨locked, part, content, own⟩ :=
        written.own found (by rw [point]; rfl)
      have counted := sound.counted
      rw [point] at own counted
      obtain rfl := Nat.le_antisymm counted all
      exact ⟨part, State.content_moved rfl content,
        State.holds_own found locked own⟩
  | @fwrite i passed kept point split =>
      obtain ⟨locked, part, content, own⟩ :=
        written.own found (by rw [point]; rfl)
      rw [point] at own
      refine ⟨part ++ passed, ?_, State.holds_own found locked ?_⟩
      · rw [State.content_append (present (by rw [point]; rfl)), content,
          List.append_nil, List.append_assoc]
      · calc
          part ++ passed ++ kept = part ++ child.buffer ++ line child.pid := by
            rw [List.append_assoc, split, sound.message_eq, List.append_assoc]
          _ = block (i + 1) child.pid := by
            rw [own, block_succ]
            rfl
  | fflush point =>
      obtain ⟨locked, part, content, own⟩ :=
        written.own found (by rw [point]; rfl)
      rw [point] at own
      refine ⟨part ++ child.buffer, ?_, State.holds_own found locked ?_⟩
      · rw [State.content_append (present (by rw [point]; rfl)), content,
          List.append_nil, List.append_assoc]
      · rw [List.append_nil]
        exact own
  | unlock point =>
      obtain ⟨locked, part, content, own⟩ :=
        written.own found (by rw [point]; rfl)
      -- The stream is empty, so the part is the whole block.
      rw [point, sound.flushed (by simp [point]), List.append_nil] at own
      subst own
      refine ⟨[], ?_, rfl⟩
      rw [List.append_nil, releasedIn_append, List.flatMap_append,
        releasedIn_released, List.flatMap_singleton]
      exact content
  | fclose point =>
      obtain ⟨part, content, holds⟩ := written.blocks
      refine ⟨part, ?_,
        holds.other written.guards found (by rw [point]; rfl) rfl⟩
      rw [State.content_append (present (by rw [point]; rfl)),
        sound.flushed (by simp [point]), List.append_nil, List.append_nil]
      exact content

theorem ChildMove.written
    (move : ChildMove M state.file index child file after events)
    (found : state.children[index]? = some child)
    (written : Written M past state) :
    Written M (past ++ events) (state.moved file index after) where
  guards := move.guards found written.guards
  sound := by
    intro other member
    rcases List.mem_or_eq_of_mem_set member with before | rfl
    · exact written.sound other before
    · exact move.sound (written.sound child (List.mem_of_getElem? found))
  present := move.present found written.present
  blocks := move.blocks found written

/-- A step of the parent moves nobody who is inside. -/
theorem Written.frame {later : List Event} {next : State}
    (written : Written M past state) (same : next.file = state.file)
    (quiet : releasedIn later = releasedIn past)
    (inside : ∀ {index : Nat} {child : Child}, child.point.inside →
      (next.children[index]? = some child ↔
        state.children[index]? = some child))
    (sound : ∀ child ∈ next.children, child.Sound M)
    (present : ∀ child ∈ next.children, child.point.hasOpened →
      state.file.content.isSome) : Written M later next where
  guards := by
    rw [same]
    apply written.guards.keep
    intro index
    apply exists_congr
    intro child
    constructor
    · rintro ⟨found, within⟩
      exact ⟨(inside within).mp found, within⟩
    · rintro ⟨found, within⟩
      exact ⟨(inside within).mpr found, within⟩
  sound := sound
  present := by
    rw [same]
    exact present
  blocks := by
    obtain ⟨part, content, holds⟩ := written.blocks
    refine ⟨part, ?_, ?_⟩
    · rw [State.content, same, quiet]
      exact content
    · unfold State.Holds at holds ⊢
      rw [same]
      split
      case h_1 free => simpa only [free] using holds
      case h_2 owner locked =>
        simp only [locked] at holds
        obtain ⟨child, found, own⟩ := holds
        have within := (State.inside_iff found).mp
          ((written.guards owner).mp locked)
        exact ⟨child, (inside within).mpr found, own⟩

theorem Written.of_nobody (nobody : state.children = [])
    (unlocked : state.file.lock = none) (silent : releasedIn past = [])
    (empty : state.content = []) : Written M past state where
  guards := by
    intro index
    simp [unlocked, State.inside, nobody]
  sound := by simp [nobody]
  present := by simp [nobody]
  blocks := ⟨[], by simp [empty, silent], by simp [State.Holds, unlocked]⟩

end Holds

end Child

end SysOp.Lab1.Zad3
