import SysOp.Lab2.Progress

/-!
# The loop when nobody else sends the signal

The process raises the signal twice.  Whatever is not pending and not being
handled has been handled, so a handler runs once for each time; and the default
action comes at the first time it can.
-/

namespace SysOp.Lab2

open SysOp.Foundation

/-- How often the process has raised the signal. -/
def Point.raises (point : Point) : Nat :=
  if point.position < 34 then 0 else if point.position < 94 then 1 else 2

/-- The signals for which `custom_handler` has run. -/
def handledIn (trace : List Event) : List Signal :=
  trace.filterMap fun
    | .handled signal => some signal
    | _ => none

/-- What has been raised is accounted for. -/
structure Quiet (disposition : Disposition Handler) (past : List Event)
    (process : Process) : Prop where
  balance : disposition ≠ .ignore →
    (handledIn past).length + process.signals.running.length +
      (process.signals.pending .SIGUSR1).toNat = process.point.raises
  silent : disposition = .default ∨ disposition = .ignore →
    handledIn past = [] ∧ process.signals.running = []
  frames : ∀ frame ∈ process.signals.running,
    frame.signal = .SIGUSR1 ∧ frame.handler = .custom
  only : ∀ signal ∈ handledIn past, signal = .SIGUSR1

/-- The history of a process that nobody else has sent the signal. -/
def Exact (disposition : Disposition Handler) (masked : Bool)
    (past : List Event) (process : Process) : Prop :=
  match process.point with
  | .returned code =>
      code = 0 ∧ disposition ≠ .default ∧
        countedIn past = List.range' 1 20 ∧
        handledIn past =
          if disposition = .ignore then [] else [.SIGUSR1, .SIGUSR1]
  | .killed signal =>
      signal = .SIGUSR1 ∧ disposition = .default ∧
        countedIn past = List.range' 1 (if masked then 10 else 5) ∧
        handledIn past = []
  | _ => Counts disposition masked past process ∧
      Quiet disposition past process

/-- What comes of the loop, and how often `custom_handler` runs. -/
def Outcome (disposition : Disposition Handler) (masked : Bool)
    (trace : List Event) (process : Process) : Prop :=
  if disposition = .default then
    process.point = .killed .SIGUSR1 ∧
      countedIn trace = List.range' 1 (if masked then 10 else 5) ∧
      handledIn trace = []
  else
    process.point = .returned 0 ∧ countedIn trace = List.range' 1 20 ∧
      handledIn trace =
        if disposition = .ignore then [] else [.SIGUSR1, .SIGUSR1]

section Moves

variable {keeps : Bool} {setup : Setup} {process next : Process}
  {events past : List Event} {disposition : Disposition Handler}
  {masked : Bool}

theorem handledIn_append (earlier later : List Event) :
    handledIn (earlier ++ later) = handledIn earlier ++ handledIn later :=
  List.filterMap_append

theorem exact_iff (going : process.point.ended = false) :
    Exact disposition masked past process ↔
      Counts disposition masked past process ∧
        Quiet disposition past process := by
  cases here : process.point with
  | returned | killed =>
      rw [here] at going
      cases going
  | _ => rw [Exact, here]

theorem Exact.outcome (exact : Exact disposition masked past process)
    (ended : process.point.ended) :
    Outcome disposition masked past process := by
  cases here : process.point with
  | returned code =>
      rw [Exact, here] at exact
      obtain ⟨rfl, spared, counted, handled⟩ := exact
      rw [Outcome, if_neg spared]
      exact ⟨here, counted, handled⟩
  | killed signal =>
      rw [Exact, here] at exact
      obtain ⟨rfl, default, counted, handled⟩ := exact
      rw [Outcome, if_pos default]
      exact ⟨here, counted, handled⟩
  | _ =>
      rw [here] at ended
      cases ended

/-- The program itself does not handle anything. -/
theorem MainMove.handledIn (move : MainMove keeps setup process next events)
    (inLoop : InLoop disposition masked process) : handledIn events = [] := by
  have begun := inLoop.begun
  cases move with
  | setUp here | refuse here =>
      rw [here] at begun
      exact absurd begun (by decide)
  | _ => rfl

/-- From round 10 on the signal is delivered before the program goes on. -/
theorem InLoop.idle (inLoop : InLoop disposition masked process)
    (ready : process.Ready) (outside : process.signals.running = [])
    (heeded : disposition ≠ .ignore) (late : 64 ≤ process.point.position) :
    process.signals.pending .SIGUSR1 = false := by
  have free : process.signals.blocked .SIGUSR1 = false := by
    rw [inLoop.blocked_eq outside heeded,
      decide_eq_false (Nat.not_lt.mpr late), Bool.and_false]
  have idle := ready .SIGUSR1
  rw [Signals.Deliverable, not_and] at idle
  exact Bool.eq_false_iff.mpr fun pending => idle pending free

/-- The signal is not pending when the process raises it. -/
theorem InLoop.not_pending {i : Nat} (inLoop : InLoop disposition masked process)
    (ready : process.Ready) (outside : process.signals.running = [])
    (quiet : Quiet disposition past process)
    (heeded : disposition ≠ .ignore) (here : process.point = .raising i) :
    process.signals.pending .SIGUSR1 = false := by
  have due : i = 5 ∨ i = 15 := by
    have due := inLoop.due
    rw [here] at due
    exact due
  rcases due with rfl | rfl
  · have balance := quiet.balance heeded
    rw [here, Point.raises, if_pos (by decide)] at balance
    exact Bool.toNat_eq_zero.mp (by omega)
  · apply inLoop.idle ready outside heeded
    rw [here]
    decide

/-- Nothing is raised, handled or delivered. -/
theorem Quiet.keep (quiet : Quiet disposition past process)
    (silent : handledIn events = [])
    (running : next.signals.running = process.signals.running)
    (pending : next.signals.pending .SIGUSR1 =
      process.signals.pending .SIGUSR1)
    (raises : next.point.raises = process.point.raises) :
    Quiet disposition (past ++ events) next := by
  have same : handledIn (past ++ events) = handledIn past := by
    rw [handledIn_append, silent, List.append_nil]
  constructor
  · rw [same, running, pending, raises]
    exact quiet.balance
  · rw [same, running]
    exact quiet.silent
  · rw [running]
    exact quiet.frames
  · rw [same]
    exact quiet.only

theorem MainMove.quiet (move : MainMove keeps setup process next events)
    (ready : process.Ready) (outside : process.signals.running = [])
    (inLoop : InLoop disposition masked process)
    (quiet : Quiet disposition past process)
    (going : next.point.ended = false) :
    Quiet disposition (past ++ events) next := by
  have begun := inLoop.begun
  have due := inLoop.due
  have silent := move.handledIn inLoop
  cases move with
  | exec here | install here | testMode here | pause here | setUp here
  | refuse here =>
      rw [here] at begun
      exact absurd begun (by decide)
  | finish => cases going
  | test here | tested here | count here | send here | check here | pass here
  | wake here | unblock here =>
      refine quiet.keep silent ?_ ?_ ?_
      · rfl
      · rfl
      · rw [here] at due ⊢
        simp only [Process.goTo, Point.raises, Point.position,
          Point.Due] at due ⊢
        grind
  | raise here =>
      have none (heeded : disposition ≠ .ignore) :=
        inLoop.not_pending ready outside quiet heeded here
      rw [here] at due
      rw [List.append_nil]
      refine ⟨fun heeded => ?_, ?_, ?_, quiet.only⟩
      · have balance := quiet.balance heeded
        have raised : (process.signals.generate keeps .SIGUSR1).pending
            .SIGUSR1 := by
          apply Signals.pending_generate_self
          rw [inLoop.settled]
          exact heeded
        rw [none heeded, here, Point.raises] at balance
        rw [raised, Signals.running_generate, Point.raises]
        simp only [Point.position, Point.Due, Bool.toNat_false,
          Bool.toNat_true] at balance due ⊢
        grind
      · rw [Signals.running_generate]
        exact quiet.silent
      · rw [Signals.running_generate]
        exact quiet.frames

theorem handledIn_handlerStep {frame : Frame Signal Handler}
    (custom : frame.handler = .custom) :
    handledIn (process.handlerStep frame).2 = [frame.signal] := by
  rw [Process.handlerStep, custom]
  rfl

theorem Quiet.handle {frame : Frame Signal Handler}
    {rest : List (Frame Signal Handler)}
    (quiet : Quiet disposition past process)
    (inside : process.signals.running = frame :: rest)
    (same : (process.handlerStep frame).1.point = process.point) :
    Quiet disposition (past ++ (process.handlerStep frame).2)
      (process.handlerStep frame).1 := by
  obtain ⟨own, custom⟩ := quiet.frames frame
    (inside ▸ List.mem_cons_self)
  obtain ⟨running, pending⟩ := running_handlerStep inside
  have balance := quiet.balance
  have frames := quiet.frames
  rw [inside] at balance frames
  constructor
  · intro heeded
    have before := balance heeded
    rw [handledIn_append, handledIn_handlerStep custom, running, pending, same,
      ← before, List.length_append, List.length_cons]
    exact Nat.add_right_cancel_iff.mpr (Nat.add_right_comm ..)
  · intro unhandled
    have outside := (quiet.silent unhandled).2
    rw [inside] at outside
    cases outside
  · rw [running]
    exact fun other member => frames other (List.mem_cons_of_mem _ member)
  · rw [handledIn_append, handledIn_handlerStep custom]
    intro signal member
    rcases List.mem_append.mp member with before | now
    · exact quiet.only signal before
    · exact (List.mem_singleton.mp now).trans own

/-- A delivery enters `custom_handler` or does nothing. -/
theorem Quiet.deliver {signal : Signal} {signals : Sigs}
    {delivery : Delivery Handler} (quiet : Quiet disposition past process)
    (inLoop : InLoop disposition masked process)
    (custom : disposition ≠ .handle .usr2)
    (delivered : process.signals.deliver signal = some (signals, delivery))
    (spared : process.signals.disposition signal ≠ .default) :
    Quiet disposition past { process with signals } := by
  obtain ⟨deliverable, what⟩ := Signals.deliver_eq_some_iff.mp delivered
  obtain ⟨rfl, -⟩ := inLoop.deliverable deliverable
  obtain ⟨pending, -⟩ := deliverable
  rw [inLoop.settled] at what spared
  split at what
  case h_1 => exact absurd rfl spared
  case h_2 =>
    obtain ⟨rfl, _⟩ := what
    exact ⟨fun heeded => absurd rfl heeded, quiet.silent, quiet.frames,
      quiet.only⟩
  case h_3 handler =>
    obtain ⟨rfl, _⟩ := what
    refine ⟨fun heeded => ?_, ?_, ?_, quiet.only⟩
    · have balance := quiet.balance heeded
      rw [pending, Bool.toNat_true] at balance
      simp only [Signals.enter, Signals.clear, Signals.block,
        Function.update_self, List.length_cons, Bool.toNat_false]
      omega
    · rintro (fatal | ignored)
      · cases fatal
      · cases ignored
    · intro frame member
      rcases List.mem_cons.mp member with rfl | before
      · refine ⟨rfl, ?_⟩
        cases handler with
        | custom => rfl
        | usr2 => exact absurd rfl custom
      · exact quiet.frames frame before

/-- Where the process is delivered the signal first. -/
theorem Quiet.terminate {signal : Signal} {signals : Sigs}
    (quiet : Quiet disposition past process)
    (inLoop : InLoop disposition masked process)
    (counted : countedIn past = List.range' 1 process.point.counted)
    (killed : Counts disposition masked (past ++ [.killed signal])
      { process with signals, point := .killed signal })
    (delivered : process.signals.deliver signal =
      some (signals, .terminated)) :
    Exact disposition masked (past ++ [.killed signal])
      { process with signals, point := .killed signal } := by
  obtain ⟨rfl, default, few⟩ := killed
  obtain ⟨deliverable, _⟩ := Signals.deliver_eq_some_iff.mp delivered
  obtain ⟨silent, outside⟩ := quiet.silent (.inl default)
  have heeded : disposition ≠ .ignore := Disposition.heeded default
  refine ⟨rfl, default, ?_, ?_⟩
  · cases masked with
    | true => exact few.1
    | false =>
        have bounded : process.point.position ≤ 34 :=
          (inLoop.fatal default).1
        have balance := quiet.balance heeded
        have going := inLoop.going
        rw [silent, outside, deliverable.1, Point.raises] at balance
        have there : process.point.position = 34 := by
          split at balance
          · cases balance
          · omega
        have fifth : process.point.counted = 5 := by
          cases here : process.point <;> rw [here] at there going <;>
            simp only [Point.position, Point.counted] at there ⊢ <;>
            omega
        rw [countedIn_append, counted, fifth]
        rfl
  · rw [handledIn_append, silent]
    rfl

/-- Where the process has counted to twenty. -/
theorem Quiet.finish (quiet : Quiet disposition past process)
    (inLoop : InLoop disposition masked process) (ready : process.Ready)
    (outside : process.signals.running = [])
    (here : process.point = .finishing) :
    handledIn past =
      if disposition = .ignore then [] else [.SIGUSR1, .SIGUSR1] := by
  split
  next ignored => exact (quiet.silent (.inr ignored)).1
  next heeded =>
    have late : 64 ≤ process.point.position := by
      rw [here]
      decide
    have balance := quiet.balance heeded
    rw [inLoop.idle ready outside heeded late, outside, here] at balance
    exact List.eq_replicate_iff.mpr ⟨balance, quiet.only⟩

/-- What any step keeps when nobody else sends the signal. -/
theorem Move.exact (move : Move keeps setup process next events)
    (custom : disposition ≠ .handle .usr2)
    (exact : Exact disposition masked past process) :
    Exact disposition masked (past ++ events) next := by
  have alive := move.alive
  obtain ⟨counts, quiet⟩ := (exact_iff alive).mp exact
  have after := move.counts counts
  obtain ⟨inLoop, counted, _⟩ := (counts_iff alive).mp counts
  cases move with
  | handle _ inside =>
      obtain ⟨kept, same⟩ := inLoop.handle inside
      exact (exact_iff kept.going).mpr ⟨after, quiet.handle inside same⟩
  | terminate _ delivered =>
      exact quiet.terminate inLoop counted after delivered
  | deliver _ delivered spared =>
      have kept := inLoop.deliver delivered spared
      rw [List.append_nil] at after ⊢
      exact (exact_iff kept.going).mpr
        ⟨after, quiet.deliver inLoop custom delivered spared⟩
  | main ready outside move =>
      by_cases going : next.point.ended = false
      · exact (exact_iff going).mpr
          ⟨after, move.quiet ready outside inLoop quiet going⟩
      · obtain ⟨here, rfl, rfl⟩ := move.finishes inLoop going
        obtain ⟨code, spared, counted, _⟩ := after
        refine ⟨code, spared, counted, ?_⟩
        rw [handledIn_append, quiet.finish inLoop ready outside here]
        exact List.append_nil _

end Moves

end SysOp.Lab2
