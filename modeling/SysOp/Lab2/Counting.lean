import SysOp.Lab2.Moves

/-!
# From the first number to the end

What is set up for `SIGUSR1` decides how the loop ends.  With the default action
the process is terminated in round 5, or, if the signal is blocked, in round 10,
where it is unblocked; otherwise it counts to twenty.
-/

namespace SysOp.Lab2

open SysOp.Foundation

/-- How far the process has come; a round of the loop takes six steps. -/
def Point.position : Point → Nat
  | .executing => 0
  | .installing => 1
  | .testingMode => 2
  | .callingPause => 3
  | .pausing => 4
  | .settingUp => 5
  | .testing i => 6 * i
  | .counting i => 6 * i + 1
  | .acting i => 6 * i + 2
  | .raising i | .unblocking i => 6 * i + 3
  | .sleeping i => 6 * i + 4
  | .finishing => 127
  | .returned _ | .killed _ => 128

/-- How many numbers have been printed. -/
def Point.counted : Point → Nat
  | .testing i | .counting i => i - 1
  | .acting i | .raising i | .unblocking i | .sleeping i => i
  | .finishing => 20
  | _ => 0

/-- The rounds in which the process can be there. -/
def Point.Due : Point → Prop
  | .testing i => i ≤ 21
  | .counting i | .acting i | .sleeping i => i ≤ 20
  | .raising i => i = 5 ∨ i = 15
  | .unblocking i => i = 10
  | _ => True

/-- The numbers printed, in this order. -/
def countedIn (trace : List Event) : List Nat :=
  trace.filterMap fun
    | .counted i => some i
    | _ => none

/-- The process is in the loop, with this disposition of `SIGUSR1`, which was
blocked when it came there or was not.  At 34 it has raised the signal for the
first time, and at 64 it has unblocked it. -/
structure InLoop (disposition : Disposition Handler) (masked : Bool)
    (process : Process) : Prop where
  begun : 6 ≤ process.point.position
  going : process.point.ended = false
  due : process.point.Due
  settled : process.signals.disposition .SIGUSR1 = disposition
  nested : process.signals.WellNested
  alone : ∀ signal, signal ≠ .SIGUSR1 → process.signals.pending signal = false
  mask : disposition ≠ .ignore →
    process.signals.programMask .SIGUSR1 =
      (masked && process.point.position < 64)
  held : disposition ≠ .ignore → masked → 34 ≤ process.point.position →
    process.point.position < 64 → process.signals.pending .SIGUSR1
  fatal : disposition = .default →
    (process.point.position ≤ if masked then 64 else 34) ∧
      (34 ≤ process.point.position → process.signals.pending .SIGUSR1)

/-- The history of a process that has come to the loop. -/
def Counts (disposition : Disposition Handler) (masked : Bool)
    (past : List Event) (process : Process) : Prop :=
  match process.point with
  | .returned code =>
      code = 0 ∧ disposition ≠ .default ∧
        countedIn past = List.range' 1 20 ∧ .finished ∈ past
  | .killed signal =>
      signal = .SIGUSR1 ∧ disposition = .default ∧
        if masked then
          countedIn past = List.range' 1 10 ∧ .unblocking ∈ past
        else countedIn past <+: List.range' 1 5
  | point =>
      InLoop disposition masked process ∧
        countedIn past = List.range' 1 point.counted ∧
        (disposition = .default → masked → 63 ≤ point.position →
          .unblocking ∈ past)

section Moves

variable {keeps : Bool} {setup : Setup} {process next : Process}
  {events past : List Event} {disposition : Disposition Handler}
  {masked : Bool}

theorem countedIn_append (earlier later : List Event) :
    countedIn (earlier ++ later) = countedIn earlier ++ countedIn later :=
  List.filterMap_append

/-- Outside of handlers the signal is blocked as the program has it. -/
theorem InLoop.blocked_eq (inLoop : InLoop disposition masked process)
    (outside : process.signals.running = [])
    (heeded : disposition ≠ .ignore) :
    process.signals.blocked .SIGUSR1 =
      (masked && process.point.position < 64) := by
  rw [← inLoop.mask heeded, Signals.programMask_eq_blocked outside]

/-- A process that is to be terminated does not go on. -/
theorem InLoop.lt_of_ready (inLoop : InLoop disposition masked process)
    (ready : process.Ready) (outside : process.signals.running = [])
    (default : disposition = .default) :
    process.point.position < if masked then 64 else 34 := by
  have heeded : disposition ≠ .ignore := Disposition.heeded default
  obtain ⟨bounded, pending⟩ := inLoop.fatal default
  apply Nat.lt_of_le_of_ne bounded
  intro there
  apply ready .SIGUSR1
  have blocked := inLoop.blocked_eq outside heeded
  cases masked with
  | true =>
      have there : process.point.position = 64 := there
      refine ⟨pending (by rw [there]; decide), ?_⟩
      rw [blocked, there]
      rfl
  | false =>
      have there : process.point.position = 34 := there
      exact ⟨pending there.ge, blocked⟩

theorem countedIn_handlerStep (process : Process)
    (frame : Frame Signal Handler) :
    countedIn (process.handlerStep frame).2 = [] := by
  unfold Process.handlerStep
  cases frame.handler <;> rfl

/-- In round 10 the signal of round 5 still waits if it is blocked. -/
theorem InLoop.waits (inLoop : InLoop disposition masked process)
    (outside : process.signals.running = []) (heeded : disposition ≠ .ignore)
    (blocked : masked) (here : process.point = .acting 10) :
    process.signals.pending .SIGUSR1 ∧ process.signals.blocked .SIGUSR1 := by
  constructor
  · apply inLoop.held heeded blocked <;> simp [here, Point.position]
  · rw [inLoop.blocked_eq outside heeded, blocked, here]
    rfl

/-- The process goes on with the signals it has. -/
theorem InLoop.goTo {point : Point} (inLoop : InLoop disposition masked process)
    (ready : process.Ready) (outside : process.signals.running = [])
    (going : point.ended = false) (due : point.Due)
    (begun : 6 ≤ point.position)
    (raised : 34 ≤ point.position → 34 ≤ process.point.position)
    (crossed : disposition ≠ .ignore → masked →
      (point.position < 64 ↔ process.point.position < 64)) :
    InLoop disposition masked (process.goTo point) where
  begun := begun
  going := going
  due := due
  settled := inLoop.settled
  nested := inLoop.nested
  alone := inLoop.alone
  mask := by
    intro heeded
    refine (inLoop.mask heeded).trans ?_
    cases masked with
    | false => rfl
    | true =>
        rw [Bool.true_and, Bool.true_and]
        exact decide_eq_decide.mpr (crossed heeded rfl).symm
  held := by
    intro heeded blocked after before
    exact inLoop.held heeded blocked (raised after)
      ((crossed heeded blocked).mp before)
  fatal := by
    intro default
    have heeded : disposition ≠ .ignore := Disposition.heeded default
    refine ⟨?_, fun after => (inLoop.fatal default).2 (raised after)⟩
    have before := inLoop.lt_of_ready ready outside default
    cases masked with
    | true => exact ((crossed heeded rfl).mpr before).le
    | false =>
        apply Nat.le_of_not_lt
        intro after
        exact absurd (raised after.le) (Nat.not_le.mpr before)

theorem InLoop.raise {i : Nat} (inLoop : InLoop disposition masked process)
    (ready : process.Ready) (outside : process.signals.running = [])
    (here : process.point = .raising i) :
    InLoop disposition masked
      { process with
        signals := process.signals.generate keeps .SIGUSR1
        point := .sleeping i } := by
  have due : i = 5 ∨ i = 15 := by
    have due := inLoop.due
    rw [here] at due
    exact due
  have pending (heeded : disposition ≠ .ignore) :
      (process.signals.generate keeps .SIGUSR1).pending .SIGUSR1 := by
    apply Signals.pending_generate_self
    rw [inLoop.settled]
    exact heeded
  refine ⟨?_, rfl, ?_, ?_, ?_, ?_, ?_, ?_, ?_⟩
  · simp only [Point.position]
    omega
  · simp only [Point.Due]
    omega
  · rw [Signals.disposition_generate]
    exact inLoop.settled
  · exact (Signals.wellNested_generate_iff ..).mpr inLoop.nested
  · intro signal other
    rw [Signals.pending_generate_of_ne _ _ _ other]
    exact inLoop.alone signal other
  · intro heeded
    rw [Signals.programMask_generate, inLoop.mask heeded, here]
    simp only [Point.position]
    congr 2
    rw [eq_iff_iff]
    omega
  · exact fun heeded _ _ _ => pending heeded
  · intro default
    have heeded : disposition ≠ .ignore := Disposition.heeded default
    refine ⟨?_, fun _ => pending heeded⟩
    have before := inLoop.lt_of_ready ready outside default
    rw [here] at before
    simp only [Point.position] at before ⊢
    split at before <;> simp_all <;> omega

theorem InLoop.unblock {i : Nat} (inLoop : InLoop disposition masked process)
    (ready : process.Ready) (outside : process.signals.running = [])
    (here : process.point = .unblocking i) :
    InLoop disposition masked
      { process with
        signals := sigUnblock .SIGUSR1 process.signals
        point := .sleeping i } := by
  obtain rfl : i = 10 := by
    have due := inLoop.due
    rw [here] at due
    exact due
  have mask : (sigUnblock .SIGUSR1 process.signals).programMask =
      (sigUnblock .SIGUSR1 process.signals).blocked :=
    Signals.programMask_eq_blocked outside
  refine ⟨Nat.le_of_ble_eq_true rfl, rfl, Nat.le_of_ble_eq_true rfl,
    inLoop.settled, ?_, inLoop.alone, ?_, ?_, ?_⟩
  · exact Signals.wellNested_of_running_eq_nil outside
  · intro _
    have unblocked : (masked && decide ((64 : Nat) < 64)) = false :=
      Bool.and_false _
    have now : (sigUnblock .SIGUSR1 process.signals).blocked .SIGUSR1 =
        false :=
      Signals.blocked_unblock_self ..
    rw [mask]
    exact now.trans unblocked.symm
  · intro _ _ _ before
    exact absurd before (Nat.lt_irrefl 64)
  · intro default
    obtain ⟨_, pending⟩ := inLoop.fatal default
    have before := inLoop.lt_of_ready ready outside default
    rw [here] at before pending
    refine ⟨?_, fun _ => pending (by decide)⟩
    cases masked with
    | true => exact le_rfl
    | false => exact absurd before (by decide)

/-- What a step of the program itself keeps. -/
theorem MainMove.inLoop (move : MainMove keeps setup process next events)
    (ready : process.Ready) (outside : process.signals.running = [])
    (inLoop : InLoop disposition masked process)
    (going : next.point.ended = false) :
    InLoop disposition masked next := by
  have begun := inLoop.begun
  have due := inLoop.due
  have onward {point : Point} (going : point.ended = false) :=
    @InLoop.goTo process disposition masked point inLoop ready outside going
  cases move with
  | exec here | install here | testMode here | pause here | setUp here
  | refuse here =>
      rw [here] at begun
      exact absurd begun (by decide)
  | finish => cases going
  | raise here => exact inLoop.raise ready outside here
  | unblock here => exact inLoop.unblock ready outside here
  | test here more =>
      rw [here] at begun
      apply onward rfl (by exact more)
      all_goals simp only [here, Point.position] at begun ⊢; omega
  | tested here done =>
      apply onward rfl (by trivial)
      all_goals simp only [here, Point.position]; omega
  | count here =>
      rw [here] at begun due
      apply onward rfl (by exact due)
      all_goals simp only [here, Point.position] at begun ⊢; omega
  | send here fifth =>
      apply onward rfl (by exact fifth)
      all_goals simp only [here, Point.position]; omega
  | check here =>
      apply onward rfl (by rfl)
      all_goals simp only [here, Point.position]; omega
  | wake here =>
      rw [here] at due
      apply onward rfl (by exact Nat.succ_le_succ due)
      all_goals simp only [here, Point.position]; omega
  | @pass i here early late nothing =>
      rw [here] at begun due
      simp only [Point.position] at begun
      apply onward rfl (by exact due)
      · simp only [Point.position]
        omega
      · simp only [here, Point.position]
        omega
      · intro heeded blocked
        have other : i ≠ 10 := by
          rintro rfl
          exact nothing rfl (inLoop.waits outside heeded blocked here)
        simp only [here, Point.position]
        omega

theorem InLoop.handle {frame : Frame Signal Handler}
    {rest : List (Frame Signal Handler)}
    (inLoop : InLoop disposition masked process)
    (inside : process.signals.running = frame :: rest) :
    InLoop disposition masked (process.handlerStep frame).1 ∧
      (process.handlerStep frame).1.point = process.point := by
  obtain ⟨nested, mask⟩ := inLoop.nested.sigreturn inside
  have resumed : process.resumed = process.point := by
    apply if_neg
    rintro ⟨here, _⟩
    have begun := inLoop.begun
    rw [here] at begun
    exact absurd begun (by decide)
  obtain ⟨disposition, pending⟩ :
      process.signals.sigreturn.disposition = process.signals.disposition ∧
        process.signals.sigreturn.pending = process.signals.pending := by
    rw [Signals.sigreturn_eq inside]
    exact ⟨rfl, rfl⟩
  unfold Process.handlerStep
  rw [resumed]
  cases frame.handler <;>
    exact ⟨⟨inLoop.begun, inLoop.going, inLoop.due, disposition ▸ inLoop.settled,
      nested, pending ▸ inLoop.alone, mask ▸ inLoop.mask,
      pending ▸ inLoop.held, pending ▸ inLoop.fatal⟩, rfl⟩

/-- Only `SIGUSR1` is delivered, and only where it is not blocked. -/
theorem InLoop.deliverable (inLoop : InLoop disposition masked process)
    {signal : Signal} (deliverable : process.signals.Deliverable signal) :
    signal = .SIGUSR1 ∧
      (disposition ≠ .ignore → masked → 64 ≤ process.point.position) := by
  obtain ⟨pending, free⟩ := deliverable
  have same : signal = .SIGUSR1 := by
    by_contra other
    rw [inLoop.alone signal other] at pending
    cases pending
  subst same
  refine ⟨rfl, fun heeded blocked => ?_⟩
  by_contra before
  rw [Nat.not_le] at before
  have masked : process.signals.programMask .SIGUSR1 = true := by
    rw [inLoop.mask heeded, blocked, Bool.true_and]
    exact decide_eq_true before
  rw [inLoop.nested.blocked masked] at free
  cases free

theorem InLoop.deliver {signal : Signal} {signals : Sigs}
    {delivery : Delivery Handler} (inLoop : InLoop disposition masked process)
    (delivered : process.signals.deliver signal = some (signals, delivery))
    (spared : process.signals.disposition signal ≠ .default) :
    InLoop disposition masked { process with signals } := by
  obtain ⟨deliverable, _⟩ := Signals.deliver_eq_some_iff.mp delivered
  obtain ⟨rfl, late⟩ := inLoop.deliverable deliverable
  obtain ⟨nested, mask, same⟩ := inLoop.nested.deliver delivered
  obtain ⟨cleared, _⟩ := Signals.pending_deliver delivered
  rw [inLoop.settled] at spared
  refine ⟨inLoop.begun, inLoop.going, inLoop.due, ?_, nested, ?_, ?_, ?_, ?_⟩
  · rw [same]
    exact inLoop.settled
  · intro other different
    rw [cleared, Function.update_of_ne different]
    exact inLoop.alone other different
  · rw [mask]
    exact inLoop.mask
  · intro heeded blocked _ before
    exact absurd (late heeded blocked) (Nat.not_le.mpr before)
  · exact fun default => absurd default spared

/-- The signal may come from others as well. -/
theorem InLoop.receive (inLoop : InLoop disposition masked process) :
    InLoop disposition masked (process.receive keeps .SIGUSR1) := by
  refine ⟨inLoop.begun, inLoop.going, inLoop.due, ?_, ?_, ?_, ?_, ?_, ?_⟩
  · rw [Process.receive, Signals.disposition_generate]
    exact inLoop.settled
  · exact (Signals.wellNested_generate_iff ..).mpr inLoop.nested
  · intro signal other
    rw [Process.receive, Signals.pending_generate_of_ne _ _ _ other]
    exact inLoop.alone signal other
  · rw [Process.receive, Signals.programMask_generate]
    exact inLoop.mask
  · exact fun heeded blocked late before =>
      Signals.pending_generate _ _ _ (inLoop.held heeded blocked late before)
  · intro default
    obtain ⟨bounded, pending⟩ := inLoop.fatal default
    exact ⟨bounded, fun late => Signals.pending_generate _ _ _ (pending late)⟩

theorem counts_iff (going : process.point.ended = false) :
    Counts disposition masked past process ↔
      InLoop disposition masked process ∧
        countedIn past = List.range' 1 process.point.counted ∧
        (disposition = .default → masked → 63 ≤ process.point.position →
          .unblocking ∈ past) := by
  cases here : process.point with
  | returned | killed =>
      rw [here] at going
      cases going
  | _ => rw [Counts, here]

theorem MainMove.counted (move : MainMove keeps setup process next events)
    (inLoop : InLoop disposition masked process)
    (going : next.point.ended = false)
    (counted : countedIn past = List.range' 1 process.point.counted) :
    countedIn (past ++ events) = List.range' 1 next.point.counted := by
  have begun := inLoop.begun
  have due := inLoop.due
  rw [countedIn_append, counted]
  cases move with
  | exec here | install here | testMode here | pause here | setUp here
  | refuse here =>
      rw [here] at begun
      exact absurd begun (by decide)
  | finish => cases going
  | @tested i here done =>
      rw [here] at due ⊢
      have last : i = 21 := Nat.le_antisymm due done
      rw [last]
      rfl
  | @count i here =>
      rw [here] at begun ⊢
      obtain ⟨i, rfl⟩ : ∃ j, i = j + 1 := by
        simp only [Point.position] at begun
        exact ⟨i - 1, by omega⟩
      change List.range' 1 i ++ [i + 1] = List.range' 1 (i + 1)
      rw [List.range'_concat, Nat.one_mul, Nat.add_comm]
  | test here | send here | check here | pass here | raise here
  | unblock here | wake here =>
      rw [here]
      exact List.append_nil _

/-- A process to be terminated in round 10 has printed that it unblocks the
signal. -/
theorem MainMove.unblocking (move : MainMove keeps setup process next events)
    (ready : process.Ready) (outside : process.signals.running = [])
    (inLoop : InLoop disposition masked process)
    (default : disposition = .default) (blocked : masked)
    (before : 63 ≤ process.point.position → .unblocking ∈ past)
    (late : 63 ≤ next.point.position) : .unblocking ∈ past ++ events := by
  have heeded : disposition ≠ .ignore := Disposition.heeded default
  have bound := inLoop.lt_of_ready ready outside default
  rw [if_pos blocked] at bound
  have due := inLoop.due
  have passed (already : 63 ≤ process.point.position) :
      .unblocking ∈ past ++ events :=
    List.mem_append_left _ (before already)
  cases move with
  | check => exact List.mem_append_right _ (List.mem_singleton_self _)
  | exec here | install here | testMode here | pause here | setUp here
  | refuse here =>
      have begun := inLoop.begun
      rw [here] at begun
      exact absurd begun (by decide)
  | finish here =>
      rw [here] at bound
      exact absurd bound (by decide)
  | @pass i here early behind nothing =>
      have other : i ≠ 10 := by
        rintro rfl
        exact nothing rfl (inLoop.waits outside heeded blocked here)
      apply passed
      rw [here] at bound ⊢
      simp only [Point.position, Process.goTo] at bound late ⊢
      omega
  | test here | tested here | count here | raise here | unblock here
  | send here | wake here =>
      rw [here] at due
      apply passed
      rw [here] at bound ⊢
      simp only [Point.position, Point.Due, Process.goTo] at bound late due ⊢
      omega

/-- A process that is terminated had the default action, and has come as far as
the delivery lets it. -/
theorem InLoop.terminate {signal : Signal} {signals : Sigs}
    (inLoop : InLoop disposition masked process)
    (counted : countedIn past = List.range' 1 process.point.counted)
    (unblocking : disposition = .default → masked →
      63 ≤ process.point.position → .unblocking ∈ past)
    (delivered : process.signals.deliver signal =
      some (signals, .terminated)) :
    Counts disposition masked (past ++ [.killed signal])
      { process with signals, point := .killed signal } := by
  obtain ⟨deliverable, what⟩ := Signals.deliver_eq_some_iff.mp delivered
  obtain ⟨rfl, late⟩ := inLoop.deliverable deliverable
  have default : disposition = .default := by
    rw [inLoop.settled] at what
    split at what
    · rfl
    · cases what.2
    · cases what.2
  have heeded : disposition ≠ .ignore := Disposition.heeded default
  have same : countedIn (past ++ [.killed .SIGUSR1]) =
      List.range' 1 process.point.counted := by
    rw [countedIn_append, counted]
    exact List.append_nil _
  have bounded := (inLoop.fatal default).1
  have going := inLoop.going
  refine ⟨rfl, default, ?_⟩
  rw [same]
  cases masked with
  | true =>
      have there : process.point.position = 64 :=
        Nat.le_antisymm bounded (late heeded rfl)
      refine ⟨?_, List.mem_append_left _ (unblocking default rfl ?_)⟩
      · cases here : process.point <;> rw [here] at there going <;>
          simp only [Point.position] at there <;>
          first | omega | cases going
        rename_i i
        obtain rfl : i = 10 := by omega
        rfl
      · rw [there]
        decide
  | false =>
      have few : process.point.counted ≤ 5 := by
        have bounded : process.point.position ≤ 34 := bounded
        cases here : process.point <;> rw [here] at bounded <;>
          simp only [Point.position, Point.counted] at bounded ⊢ <;> omega
      change List.range' 1 process.point.counted <+: List.range' 1 5
      rw [← Nat.add_sub_cancel' few, ← List.range'_append]
      exact List.prefix_append ..

/-- The loop has one way out. -/
theorem MainMove.finishes (move : MainMove keeps setup process next events)
    (inLoop : InLoop disposition masked process)
    (finished : next.point.ended ≠ false) :
    process.point = .finishing ∧ next = process.goTo (.returned 0) ∧
      events = [.finished, .exited 0] := by
  have begun := inLoop.begun
  cases move with
  | finish here => exact ⟨here, rfl, rfl⟩
  | refuse here | testMode here =>
      rw [here] at begun
      exact absurd begun (by decide)
  | _ => exact absurd rfl finished

theorem Move.alive (move : Move keeps setup process next events) :
    process.point.ended = false := by
  cases move with
  | main _ _ move => cases move <;> simp_all [Point.ended]
  | handle alive | terminate alive | deliver alive => exact alive

/-- What any step keeps. -/
theorem Move.counts (move : Move keeps setup process next events)
    (counts : Counts disposition masked past process) :
    Counts disposition masked (past ++ events) next := by
  have alive := move.alive
  obtain ⟨inLoop, counted, unblocking⟩ := (counts_iff alive).mp counts
  cases move with
  | main ready outside move =>
      by_cases going : next.point.ended = false
      · exact (counts_iff going).mpr ⟨move.inLoop ready outside inLoop going,
          move.counted inLoop going counted, fun default blocked =>
            move.unblocking ready outside inLoop default blocked
              (unblocking default blocked)⟩
      · obtain ⟨here, rfl, rfl⟩ := move.finishes inLoop going
        rw [here] at counted
        refine ⟨rfl, ?_, ?_, List.mem_append_right _ List.mem_cons_self⟩
        · intro default
          have before := inLoop.lt_of_ready ready outside default
          rw [here] at before
          cases masked <;> exact absurd before (by decide)
        · rw [countedIn_append, counted]
          rfl
  | @handle frame rest _ inside =>
      obtain ⟨kept, same⟩ := inLoop.handle inside
      refine (counts_iff kept.going).mpr ⟨kept, ?_, ?_⟩
      · rw [countedIn_append, countedIn_handlerStep, List.append_nil, same]
        exact counted
      · rw [same]
        exact fun default blocked late =>
          List.mem_append_left _ (unblocking default blocked late)
  | terminate _ delivered => exact inLoop.terminate counted unblocking delivered
  | deliver _ delivered spared =>
      have kept := inLoop.deliver delivered spared
      rw [List.append_nil]
      exact (counts_iff kept.going).mpr ⟨kept, counted, unblocking⟩

end Moves

end SysOp.Lab2
