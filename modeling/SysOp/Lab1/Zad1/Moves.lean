import SysOp.Lab1.Zad1.System

/-!
# What the processes of `zad1` can do

The inversion of the steps that both programs share.
-/

namespace SysOp.Lab1.Zad1

open SysOp.Foundation

inductive ChildMove (M : Nat) (buffering : Buffering) (pid : Int)
    (output : Bytes) (memory : Memory) :
    ChildPoint → Bytes → Memory → ChildPoint → List Event → Prop where
  | increment (small : memory.zmiennaGlobalna + 1 ≤ INT_MAX) :
      ChildMove M buffering pid output memory .incrementing output
        { memory with zmiennaGlobalna := memory.zmiennaGlobalna + 1 }
        (.testing 0) []
  | more {j : Nat} (more : j < M) :
      ChildMove M buffering pid output memory (.testing j) output memory
        (.printing j) []
  | all {j : Nat} (all : M ≤ j) :
      ChildMove M buffering pid output memory (.testing j) output memory
        .exiting []
  | print {j early : Nat} {passed stdout : Bytes}
      (printed : buffering.print isNewline early memory.stdout
        (childLine pid) = some (passed, stdout)) :
      ChildMove M buffering pid output memory (.printing j) (output ++ passed)
        { memory with stdout } (.testing (j + 1)) [pid]
  | exit :
      ChildMove M buffering pid output memory .exiting output memory .zombie []

inductive ParentMove (argv : List Bytes) (buffering : Buffering) (idle : Bool)
    (output : Bytes) (parent : Parent) : Bytes → Parent → Prop where
  | parse {early : Nat} {passed stdout : Bytes}
      (here : parent.point = .parsing)
      (printed : buffering.print isNewline early parent.memory.stdout
        (arguments argv).1 = some (passed, stdout)) :
      ParentMove argv buffering idle output parent (output ++ passed)
        { parent with
          memory := { parent.memory with stdout }
          point := if (arguments argv).2.isSome then .forking 0
            else .exiting 1 }
  | forked {i : Nat} (here : parent.point = .forking i)
      (all : (arguments argv).2.getD 0 ≤ i) :
      ParentMove argv buffering idle output parent output
        { parent with point := .waiting 0 }
  | nobody {i : Nat} (here : parent.point = .waiting i)
      (more : (i : Int) < (arguments argv).2.getD 0) (alone : idle = true) :
      ParentMove argv buffering idle output parent output
        { parent with point := .waiting (i + 1) }
  | waited {i : Nat} (here : parent.point = .waiting i)
      (all : (arguments argv).2.getD 0 ≤ i) :
      ParentMove argv buffering idle output parent output
        { parent with point := .printing }
  | print {early : Nat} {passed stdout : Bytes}
      (here : parent.point = .printing)
      (printed : buffering.print isNewline early parent.memory.stdout
        (parentLine parent.pid parent.memory.zmiennaGlobalna) =
          some (passed, stdout)) :
      ParentMove argv buffering idle output parent (output ++ passed)
        { parent with
          memory := { parent.memory with stdout }, point := .exiting 0 }
  | exit {code : Nat} (here : parent.point = .exiting code) :
      ParentMove argv buffering idle output parent
        (output ++ parent.memory.stdout)
        { parent with
          memory := { parent.memory with stdout := [] }
          point := .returned code }

/-- What the parent has printed before its loops. -/
def front (argv : List Bytes) : ParentPoint → Bytes
  | .parsing => []
  | _ => (arguments argv).1

/-- What the parent has printed after its loops. -/
def rear (pid zmiennaGlobalna : Int) : ParentPoint → Bytes
  | .exiting 0 | .returned 0 => parentLine pid zmiennaGlobalna
  | _ => []

/-- The loop has not gone beyond M. -/
def ChildPoint.Counted (M : Nat) : ChildPoint → Prop
  | .testing j => j ≤ M
  | .printing j => j < M
  | _ => True

/-- The lines that `printf` has been given. -/
def ChildPoint.lines (M : Nat) : ChildPoint → Nat
  | .incrementing => 0
  | .testing j | .printing j => j
  | .exiting | .zombie | .reaped => M

variable {buffering : Buffering} {early : Nat} {output after : Bytes}

theorem ChildMove.counted {M : Nat} {pid : Int} {memory later : Memory}
    {point next : ChildPoint} {events : List Event}
    (move : ChildMove M buffering pid output memory point after later next
      events) (counted : point.Counted M) :
    next.Counted M ∧
      List.replicate (next.lines M) pid =
        List.replicate (point.lines M) pid ++ events := by
  cases move with
  | increment => exact ⟨Nat.zero_le M, rfl⟩
  | more more => exact ⟨more, (List.append_nil _).symm⟩
  | all all =>
      obtain rfl := Nat.le_antisymm counted all
      exact ⟨trivial, (List.append_nil _).symm⟩
  | print => exact ⟨counted, List.replicate_succ'⟩
  | exit => exact ⟨trivial, (List.append_nil _).symm⟩

theorem childStep_move {M : Nat} {pid : Int} {memory later : Memory}
    {point next : ChildPoint} {events : List Event}
    (taken : childStep M buffering early pid output memory point =
      some (after, later, next, events)) :
    ChildMove M buffering pid output memory point after later next events := by
  cases point with
  | incrementing =>
      simp only [childStep] at taken
      split at taken
      next small => cases taken; exact .increment small
      next => cases taken
  | testing j =>
      cases taken
      split
      next more => exact .more more
      next all => exact .all (Nat.le_of_not_lt all)
  | printing j =>
      simp only [childStep, Option.map_eq_some_iff, Prod.exists,
        Prod.mk.injEq] at taken
      obtain ⟨passed, stdout, printed, rfl, rfl, rfl, rfl⟩ := taken
      exact .print printed
  | exiting =>
      cases taken
      exact .exit
  | zombie | reaped => cases taken

theorem parentStep_move {argv : List Bytes} {idle : Bool}
    {parent next : Parent}
    (taken : parentStep argv buffering early idle output parent =
      some (after, next)) :
    ParentMove argv buffering idle output parent after next := by
  simp only [parentStep] at taken
  split at taken
  case h_1 here =>
    simp only [Option.map_eq_some_iff, Prod.exists, Prod.mk.injEq] at taken
    obtain ⟨passed, stdout, printed, rfl, rfl⟩ := taken
    exact .parse here printed
  case h_2 i here =>
    split at taken
    · cases taken
    next all =>
      cases taken
      exact .forked here (Int.not_lt.mp all)
  case h_3 i here =>
    split at taken
    next more =>
      split at taken
      next alone =>
        cases taken
        exact .nobody here more alone
      next => cases taken
    next all =>
      cases taken
      exact .waited here (Int.not_lt.mp all)
  case h_4 here =>
    simp only [Option.map_eq_some_iff, Prod.exists, Prod.mk.injEq] at taken
    obtain ⟨passed, stdout, printed, rfl, rfl⟩ := taken
    exact .print here printed
  case h_5 code here =>
    cases taken
    exact .exit here
  case h_6 => cases taken

section Texts

theorem usage_whole (program : Bytes) : Whole isNewline (usage program) := by
  have line : bytes " <liczba>\n" = bytes " <liczba>" ++ [10] := by decide
  rw [usage, line, ← List.append_assoc]
  exact .concat _ rfl

theorem arguments_whole (argv : List Bytes) :
    Whole isNewline (arguments argv).1 := by
  unfold arguments
  split
  · dsimp only
    split
    · exact usage_whole _
    · exact .nil _
  · exact usage_whole _

theorem childLine_whole (pid : Int) : Whole isNewline (childLine pid) := by
  have line : bytes ")\n" = bytes ")" ++ [10] := by decide
  rw [childLine, line, ← List.append_assoc]
  exact .concat _ rfl

theorem parentLine_whole (pid zmiennaGlobalna : Int) :
    Whole isNewline (parentLine pid zmiennaGlobalna) :=
  .concat _ rfl

/-- A line of a child takes at most 22 bytes. -/
theorem length_childLine_le {pid : Int} (counted : IsInt pid) :
    (childLine pid).length ≤ 22 := by
  have digits := length_decimal_le counted
  have before : (bytes "Potomek (").length = 9 := by decide
  have behind : (bytes ")\n").length = 2 := by decide
  rw [childLine, List.length_append, List.length_append, before, behind]
  omega

end Texts

end SysOp.Lab1.Zad1
