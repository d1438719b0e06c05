import SysOp.Foundation.Stream
import SysOp.Foundation.Text
import SysOp.Lab3.Zad1.Rounds

/-!
# What `zad1/main.c` prints

The parent prints a line after each round.  Whatever is pending for `stdout`
when it forks is pending in the child as well, and a child calls `exit`, which
passes it on.
-/

namespace SysOp.Lab3.Zad1

open SysOp.Foundation

universe u

variable {Double : Type u}

/-- A number in a field of some width. -/
def padded (width : Nat) (text : Bytes) : Bytes :=
  List.replicate (width - text.length) 32 ++ text

/-- `fixed precision` is what `printf` makes of a floating point number. -/
def resultLine (fixed : Nat → Double → Bytes) (k : Nat)
    (totalSum elapsed : Double) : Bytes :=
  bytes "Liczba procesów (k): " ++ padded 3 (decimal k) ++
    bytes " | Wynik całki: " ++ fixed 9 totalSum ++
    bytes " | Czas wykonania: " ++ fixed 6 elapsed ++ bytes " s\n"

/-- What is pending in the parent and in each child, and what has got out. -/
structure Streams where
  parent : Bytes
  children : List Bytes
  output : Bytes
  deriving DecidableEq

structure Printing (Double : Type u) where
  processes : State Double
  streams : Streams

/-- `elapsed` is read off the clock, and `early` is what a full stream passes
on; both matter when a line is printed only. -/
structure Choice (Double : Type u) where
  action : Action
  elapsed : Double
  early : Nat

/-- What a step does to the streams.  The last test of the loop over `k` is where
`main` returns. -/
def streamStep (n : Nat) (fixed : Nat → Double → Bytes) (buffering : Buffering)
    (processes : State Double) (streams : Streams) (choice : Choice Double) :
    Option Streams :=
  match choice.action with
  | .parent =>
      match processes.parent.point with
      | .starting =>
          if processes.parent.k ≤ n then some streams
          else some { streams with
            parent := []
            output := streams.output ++ streams.parent }
      | .forking _ =>
          some { streams with children := streams.children ++ [streams.parent] }
      | .printing =>
          (buffering.print isNewline choice.early streams.parent
            (resultLine fixed processes.parent.k processes.parent.totalSum
              choice.elapsed)).map fun (passed, parent) =>
              { streams with parent, output := streams.output ++ passed }
      | _ => some streams
  | .child index =>
      match processes.children[index]?, streams.children[index]? with
      | some child, some pending =>
          if child.point = .exiting then
            some { streams with
              children := streams.children.set index []
              output := streams.output ++ pending }
          else some streams
      | _, _ => none
  | .pipe _ | .wait _ => some streams

/-- What happens, and what the clock shows then. -/
abbrev TimedEvent (Double : Type u) := Event Double × Double

def lineOf (fixed : Nat → Double → Bytes) : TimedEvent Double → Option Bytes
  | (.printed k totalSum, elapsed) => some (resultLine fixed k totalSum elapsed)
  | (.received _ _, _) => none

/-- The lines that have been printed. -/
def linesOf (fixed : Nat → Double → Bytes)
    (trace : List (TimedEvent Double)) : List Bytes :=
  trace.filterMap (lineOf fixed)

section Machine

variable [Zero Double] [Add Double]

def printingStep (n : Nat) (partialSum : Pipe → Double)
    (fixed : Nat → Double → Bytes) (buffering : Buffering)
    (state : Printing Double) (choice : Choice Double) :
    Option (Printing Double × List (TimedEvent Double)) :=
  (step n partialSum state.processes choice.action).bind
    fun (processes, events) =>
      (streamStep n fixed buffering state.processes state.streams choice).map
        fun streams =>
          ({ processes, streams }, events.map (·, choice.elapsed))

def printing (n : Nat) (inherited : Inherited) (partialSum : Pipe → Double)
    (fixed : Nat → Double → Bytes) (buffering : Buffering) :
    Machine (Printing Double) (Choice Double) (TimedEvent Double) where
  start :=
    { processes := initial inherited
      streams := { parent := [], children := [], output := [] } }
  step := printingStep n partialSum fixed buffering

end Machine

/-- What a child has pending, if it was forked with this text. -/
def Child.pending (text : Bytes) (child : Child) : Bytes :=
  match child.point with
  | .zombie | .reaped => []
  | _ => text

section Steps

variable {n : Nat} {partialSum : Pipe → Double}
  {fixed : Nat → Double → Bytes} {buffering : Buffering}
  {processes after : State Double} {events : List (Event Double)}
  {streams : Streams} {elapsed : Double}

/-- Steps that do not matter for the streams. -/
structure Calm (processes after : State Double) : Prop where
  k : after.parent.k = processes.parent.k
  finished : after.parent.point = .finished ↔
    processes.parent.point = .finished
  pipes : after.children.map Child.pipe = processes.children.map Child.pipe
  pending : ∀ text : Bytes, after.children.map (Child.pending text) =
    processes.children.map (Child.pending text)

variable (n fixed buffering) in
/-- What a step of the program can be, as far as the streams matter. -/
inductive Change (state : Printing Double) :
    Printing Double → List (TimedEvent Double) → Prop where
  | calm {processes : State Double} {events : List (TimedEvent Double)}
      (calm : Calm state.processes processes)
      (silent : linesOf fixed events = []) :
      Change state { state with processes } events
  | fork {i : Nat} (here : state.processes.parent.point = .forking i) :
      Change state
        { processes := { state.processes with
            parent := { state.processes.parent with point := .closingWrite i }
            children := state.processes.children ++
              [{ pipe := ⟨state.processes.parent.k, i⟩
                 fds := state.processes.parent.fds
                 table := state.processes.parent.table
                 point := .closingOwn }] }
          streams := { state.streams with
            children := state.streams.children ++ [state.streams.parent] } } []
  | print {elapsed : Double} {early : Nat} {passed kept : Bytes}
      (here : state.processes.parent.point = .printing)
      (printed : buffering.print isNewline early state.streams.parent
        (resultLine fixed state.processes.parent.k
          state.processes.parent.totalSum elapsed) = some (passed, kept)) :
      Change state
        { processes := { state.processes with
            parent := { state.processes.parent with
              k := state.processes.parent.k + 1
              fds := []
              point := .starting } }
          streams := { state.streams with
            parent := kept
            output := state.streams.output ++ passed } }
        [(.printed state.processes.parent.k state.processes.parent.totalSum,
          elapsed)]
  | finish (here : state.processes.parent.point = .starting)
      (all : n < state.processes.parent.k) :
      Change state
        { processes := { state.processes with
            parent := { state.processes.parent with point := .finished } }
          streams := { state.streams with
            parent := []
            output := state.streams.output ++ state.streams.parent } } []
  | exit {index : Nat} {child : Child} {pending : Bytes}
      (found : state.processes.children[index]? = some child)
      (stands : state.streams.children[index]? = some pending)
      (here : child.point = .exiting) :
      Change state
        { processes := { state.processes with
            children := state.processes.children.set index
              { child with table := ∅, point := .zombie } }
          streams := { state.streams with
            children := state.streams.children.set index []
            output := state.streams.output ++ pending } } []

theorem Calm.of_children (k : after.parent.k = processes.parent.k)
    (here : processes.parent.point ≠ .finished)
    (there : after.parent.point ≠ .finished)
    (children : after.children = processes.children) :
    Calm processes after where
  k := k
  finished := iff_of_false there here
  pipes := by rw [children]
  pending text := by rw [children]

/-- A child that moves without exiting, or is waited for. -/
theorem Calm.of_set {index : Nat} {child moved : Child}
    {parent : Parent Double} {contents : Pipe → List Double}
    (found : processes.children[index]? = some child)
    (k : parent.k = processes.parent.k)
    (finished : parent.point = .finished ↔
      processes.parent.point = .finished)
    (pipe : moved.pipe = child.pipe)
    (pending : ∀ text, moved.pending text = child.pending text) :
    Calm processes
      { parent, contents, children := processes.children.set index moved } where
  k := k
  finished := finished
  pipes := map_set_of_eq Child.pipe found pipe
  pending text := map_set_of_eq (Child.pending text) found (pending text)

/-- A step of a child that does not exit. -/
theorem ChildMove.pending {contents written : Pipe → List Double}
    {child moved : Child}
    (move : ChildMove partialSum contents child written moved)
    (runs : child.point ≠ .exiting) (text : Bytes) :
    moved.pending text = child.pending text := by
  cases move with
  | exit here => exact absurd here runs
  | closeOwn here | closeElder here | closed here | write here
  | closeWrite here => simp [Child.pending, here]

theorem pipeStep_calm {ends : Ends}
    (taken : pipeStep ends processes = some (after, events)) :
    Calm processes after ∧
      linesOf fixed (events.map (·, elapsed)) = [] := by
  unfold pipeStep at taken
  dsimp only at taken
  split at taken
  case h_1 i here =>
    split at taken
    case isTrue =>
      cases taken
      exact ⟨.of_children rfl (by simp [here]) (by simp) rfl, rfl⟩
    case isFalse => cases taken
  case h_2 => cases taken

theorem waitStep_calm {index : Nat}
    (taken : waitStep index processes = some (after, events)) :
    Calm processes after ∧
      linesOf fixed (events.map (·, elapsed)) = [] := by
  unfold waitStep at taken
  split at taken
  case h_1 i child here found =>
    split at taken
    case isTrue exited =>
      cases taken
      refine ⟨.of_set found rfl (by simp [here]) rfl ?_, rfl⟩
      intro text
      simp [Child.pending, exited]
    case isFalse => cases taken
  case h_2 => cases taken

variable [Zero Double] [Add Double]

/-- A step of the parent that does not fork, print or return. -/
theorem parentStep_calm (taken : parentStep n processes = some (after, events))
    (more : processes.parent.point = .starting → processes.parent.k ≤ n)
    (forks : ∀ i, processes.parent.point ≠ .forking i)
    (prints : processes.parent.point ≠ .printing) :
    Calm processes after ∧
      linesOf fixed (events.map (·, elapsed)) = [] := by
  unfold parentStep at taken
  dsimp only at taken
  cases here : processes.parent.point <;> rw [here] at taken <;>
    dsimp only at taken
  case starting =>
    rw [if_pos (more here)] at taken
    cases taken
    exact ⟨.of_children rfl (by simp [here]) (by simp) rfl, rfl⟩
  case spawning i | collecting i =>
    cases taken
    refine ⟨.of_children ?_ (by simp [here]) ?_ rfl, rfl⟩ <;> split <;> simp
  case piping | finished => cases taken
  case forking i => exact absurd here (forks i)
  case closingWrite i | closingRead i =>
    obtain ⟨ends, _, same⟩ := Option.map_eq_some_iff.mp taken
    cases same
    exact ⟨.of_children rfl (by simp [here]) (by simp) rfl, rfl⟩
  case reading i =>
    obtain ⟨ends, _, read⟩ := Option.bind_eq_some_iff.mp taken
    split at read
    case h_1 pipe _ =>
      split at read
      case h_1 value rest _ =>
        cases read
        exact ⟨.of_children rfl (by simp [here]) (by simp) rfl, rfl⟩
      case h_2 =>
        split at read
        case isTrue => cases read
        case isFalse =>
          cases read
          exact ⟨.of_children rfl (by simp [here]) (by simp) rfl, rfl⟩
    case h_2 => cases read
  case waiting i =>
    split at taken
    case isTrue =>
      cases taken
      exact ⟨.of_children rfl (by simp [here]) (by simp) rfl, rfl⟩
    case isFalse => cases taken
  case printing => exact absurd here prints

theorem printingStep_change {state next : Printing Double}
    {choice : Choice Double} {events : List (TimedEvent Double)}
    (taken : printingStep n partialSum fixed buffering state choice =
      some (next, events)) :
    step n partialSum state.processes choice.action =
        some (next.processes, events.map Prod.fst) ∧
      Change n fixed buffering state next events := by
  simp only [printingStep, Option.bind_eq_some_iff, Option.map_eq_some_iff,
    Prod.exists, Prod.mk.injEq] at taken
  obtain ⟨processes, moved, stepped, streams, passed, rfl, rfl⟩ := taken
  refine ⟨by simpa [Function.comp_def] using stepped, ?_⟩
  obtain ⟨action, elapsed, early⟩ := choice
  cases action with
  | parent =>
      simp only [streamStep] at passed
      split at passed
      case h_1 here =>
        split at passed
        case isTrue more =>
          cases passed
          obtain ⟨calm, silent⟩ := parentStep_calm stepped (fun _ => more)
            (by simp [here]) (by simp [here])
          exact .calm calm silent
        case isFalse all =>
          cases passed
          simp only [step, parentStep, here, if_neg all] at stepped
          cases stepped
          exact .finish here (Nat.lt_of_not_le all)
      case h_2 i here =>
        cases passed
        simp only [step, parentStep, here] at stepped
        cases stepped
        exact .fork here
      case h_3 here =>
        obtain ⟨⟨gone, kept⟩, printed, rfl⟩ := Option.map_eq_some_iff.mp passed
        simp only [step, parentStep, here] at stepped
        cases stepped
        exact .print here printed
      case h_4 starts forks prints =>
        cases passed
        obtain ⟨calm, silent⟩ := parentStep_calm stepped
          (fun here => absurd here starts) forks prints
        exact .calm calm silent
  | pipe ends =>
      cases passed
      obtain ⟨calm, silent⟩ := pipeStep_calm stepped
      exact .calm calm silent
  | wait index =>
      cases passed
      obtain ⟨calm, silent⟩ := waitStep_calm stepped
      exact .calm calm silent
  | child index =>
      simp only [step, Option.map_eq_some_iff, Prod.exists,
        Prod.mk.injEq] at stepped
      obtain ⟨contents, children, _, all, rfl, rfl⟩ := stepped
      obtain ⟨child, after, found, single, rfl⟩ := moveAt_eq_some_iff.mp all
      obtain ⟨move, rfl⟩ := childStep_move single
      simp only [streamStep, found] at passed
      split at passed
      case h_1 _ pending same stands =>
        cases same
        split at passed
        case isTrue here =>
          cases passed
          cases move with
          | exit => exact .exit found stands here
          | closeOwn other | closeElder other | closed other | write other
          | closeWrite other =>
              rw [here] at other
              cases other
        case isFalse runs =>
          cases passed
          refine .calm (.of_set found rfl .rfl ?_ (move.pending runs)) rfl
          cases move <;> rfl
      case h_2 => cases passed

end Steps

end SysOp.Lab3.Zad1
