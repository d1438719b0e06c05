import SysOp.Foundation.Inevitable
import SysOp.Foundation.Machine
import SysOp.Lab2.Setup

/-!
# `zad1/main.c`

The program sets up `SIGUSR1` as its argument says and counts.  It inherits
whether the signal is ignored or blocked, and at any time others may send it as
well.
-/

namespace SysOp.Lab2.Zad1

open SysOp.Foundation

inductive Action where
  | run
  | deliver (signal : Signal)
  | send
  deriving DecidableEq

def modeSetup : Setup :=
  Lab2.modeSetup fun mode =>
    bytes "Invalid mode " ++ [mode] ++ bytes " parsed in mode_setup\n"

def start (mode : UInt8) (inherited : Inherited) : Process where
  signals := inherited.signals
  receivedMode := mode.toNat
  value := 0
  point := .settingUp

def step (keeps : Bool) (process : Process) :
    Action → Option (Process × List Event)
  | .run => process.step keeps modeSetup
  | .deliver signal => process.deliver signal
  | .send =>
      if process.point.ended then none
      else some (process.receive keeps .SIGUSR1, [])

def zad1 (keeps : Bool) (mode : UInt8) (inherited : Inherited) :
    Machine Process Action Event where
  start := start mode inherited
  step := step keeps

/-- Nobody else sends the signal. -/
def Alone (_ : Process) (action : Action) : Prop :=
  action ≠ .send

instance (process : Process) (action : Action) :
    Decidable (Alone process action) :=
  inferInstanceAs (Decidable (action ≠ .send))

section Runs

variable {keeps : Bool} {mode : UInt8} {inherited : Inherited}
  {process next last : Process} {events past trace : List Event}

/-- Others have terminated the program before it has set anything up. -/
structure Surprised (inherited : Inherited) (past : List Event)
    (process : Process) : Prop where
  here : process.point = .killed .SIGUSR1
  uncounted : countedIn past = []
  ignored : inherited.ignored = false
  blocked : inherited.blocked = false

def Sound (mode : UInt8) (inherited : Inherited) (past : List Event)
    (process : Process) : Prop :=
  Begins mode inherited past process ∨ Surprised inherited past process ∨
    Counts (inherited.settled mode) (inherited.masked mode) past process

theorem begins_receive (begins : Begins mode inherited past process) :
    Begins mode inherited past (process.receive keeps .SIGUSR1) := by
  obtain ⟨⟨here, outside, alone, uncounted⟩, received, disposition, blocked⟩ :=
    begins
  refine ⟨⟨here, ?_, ?_, uncounted⟩, received, ?_, ?_⟩
  · rw [Process.receive, Signals.running_generate]
    exact outside
  · intro signal other
    rw [Process.receive, Signals.pending_generate_of_ne _ _ _ other]
    exact alone signal other
  · rw [Process.receive, Signals.disposition_generate]
    exact disposition
  · rw [Process.receive, Signals.blocked_generate]
    exact blocked

theorem sound_of_begins (isMode : IsMode mode)
    (begins : Begins mode inherited past process)
    (move : Move keeps modeSetup process next events) :
    Sound mode inherited (past ++ events) next := by
  obtain ⟨fresh, received, disposition, blocked⟩ := begins
  cases move with
  | main _ _ move =>
      obtain ⟨after, configured, rfl, rfl⟩ :=
        fresh.main isMode (modeSetup_decides isMode) received move
      have counts := configured.counts fresh
      rw [Process.disposition, Process.masked, disposition, blocked] at counts
      rw [List.append_nil]
      exact .inr (.inr counts)
  | handle _ inside =>
      rw [fresh.outside] at inside
      cases inside
  | terminate _ delivered =>
      obtain ⟨deliverable, what⟩ := Signals.deliver_eq_some_iff.mp delivered
      obtain rfl := fresh.deliverable deliverable
      rw [disposition, Inherited.disposition] at what
      refine .inr (.inl ⟨rfl, ?_, ?_, blocked.symm.trans deliverable.2⟩)
      · rw [countedIn_append, fresh.uncounted]
        rfl
      · cases ignored : inherited.ignored with
        | false => rfl
        | true =>
            rw [ignored] at what
            cases what.2
  | @deliver _ signals _ _ delivered spared =>
      obtain ⟨deliverable, what⟩ := Signals.deliver_eq_some_iff.mp delivered
      obtain rfl := fresh.deliverable deliverable
      have cleared : signals = process.signals.clear .SIGUSR1 := by
        rw [disposition, Inherited.disposition] at what spared
        cases ignored : inherited.ignored with
        | true =>
            rw [ignored] at what
            exact what.1
        | false =>
            rw [ignored] at spared
            exact absurd rfl spared
      subst cleared
      rw [List.append_nil]
      refine .inl ⟨⟨fresh.here, fresh.outside, ?_, fresh.uncounted⟩, received,
        disposition, blocked⟩
      intro signal other
      exact (Function.update_of_ne other ..).trans (fresh.alone signal other)

theorem step_sound (isMode : IsMode mode) {action : Action}
    (sound : Sound mode inherited past process)
    (taken : step keeps process action = some (next, events)) :
    Sound mode inherited (past ++ events) next := by
  by_cases sent : action = .send
  · subst sent
    simp only [step] at taken
    split at taken
    next => cases taken
    next going =>
      cases taken
      rw [Bool.not_eq_true] at going
      rw [List.append_nil]
      rcases sound with begins | surprised | counts
      · exact (.inl (begins_receive begins))
      · rw [surprised.here] at going
        cases going
      · obtain ⟨inLoop, rest⟩ := (counts_iff going).mp counts
        have kept : InLoop _ _ (process.receive keeps .SIGUSR1) :=
          inLoop.receive
        exact .inr (.inr ((counts_iff kept.going).mpr ⟨kept, rest⟩))
  · have move : Move keeps modeSetup process next events := by
      cases action with
      | run => exact step_move taken
      | deliver signal => exact deliver_move taken
      | send => exact absurd rfl sent
    rcases sound with begins | surprised | counts
    · exact sound_of_begins isMode begins move
    · have alive := move.alive
      rw [surprised.here] at alive
      cases alive
    · exact .inr (.inr (move.counts counts))

theorem start_begins : Begins mode inherited [] (start mode inherited) where
  fresh := ⟨rfl, rfl, fun _ _ => rfl, rfl⟩
  mode := rfl
  disposition := rfl
  blocked := rfl

theorem run_sound {allowed : Process → Action → Prop} (isMode : IsMode mode)
    (steps : (zad1 keeps mode inherited).RunWithin allowed
      (start mode inherited) trace last) :
    Sound mode inherited trace last :=
  steps.history (Sound mode inherited) (.inl start_begins)
    fun sound _ taken => step_sound isMode sound taken

theorem work_of_begins (isMode : IsMode mode)
    (begins : Begins mode inherited past process)
    (move : Move keeps modeSetup process next events) :
    next.work < process.work := by
  obtain ⟨fresh, received, _, _⟩ := begins
  cases move with
  | main _ _ move =>
      obtain ⟨after, configured, _, rfl⟩ :=
        fresh.main isMode (modeSetup_decides isMode) received move
      exact configured.work fresh.here
  | handle _ inside =>
      rw [fresh.outside] at inside
      cases inside
  | terminate _ delivered =>
      obtain ⟨deliverable, _⟩ := Signals.deliver_eq_some_iff.mp delivered
      obtain rfl := fresh.deliverable deliverable
      apply Process.work_deliver delivered
      rw [fresh.here]
      decide
  | deliver _ delivered =>
      obtain ⟨deliverable, _⟩ := Signals.deliver_eq_some_iff.mp delivered
      obtain rfl := fresh.deliverable deliverable
      exact Process.work_deliver delivered le_rfl

theorem Sound.awake (sound : Sound mode inherited past process) :
    process.point ≠ .pausing := by
  intro here
  rcases sound with begins | surprised | counts
  · have start := begins.fresh.here
    rw [here] at start
    cases start
  · have killed := surprised.here
    rw [here] at killed
    cases killed
  · obtain ⟨inLoop, _⟩ := (counts_iff (by rw [here]; rfl)).mp counts
    have begun := inLoop.begun
    rw [here] at begun
    exact absurd begun (by decide)

/-- Once nobody else sends the signal the program comes to its end. -/
theorem Sound.inevitable (isMode : IsMode mode)
    (sound : Sound mode inherited past process) :
    (zad1 keeps mode inherited).Inevitable Alone (·.point.ended) process := by
  apply Machine.inevitable_of_measure
    (fun process => ∃ past, Sound mode inherited past process) Process.work
  · rintro process ⟨past, sound⟩ going
    rcases Process.able (Bool.eq_false_iff.mpr going)
      fun here _ => absurd here sound.awake with
      onward | ⟨signal, delivered⟩
    · exact ⟨.run, nofun, onward⟩
    · exact ⟨.deliver signal, nofun, delivered⟩
  · rintro process action next events ⟨past, sound⟩ alone taken
    refine ⟨⟨past ++ events, step_sound isMode sound taken⟩, ?_⟩
    have move : Move keeps modeSetup process next events := by
      cases action with
      | run => exact step_move taken
      | deliver signal => exact deliver_move taken
      | send => exact absurd rfl alone
    rcases sound with begins | surprised | counts
    · exact work_of_begins isMode begins move
    · have alive := move.alive
      rw [surprised.here] at alive
      cases alive
    · exact move.work ((counts_iff move.alive).mp counts).1
  · exact ⟨past, sound⟩

/-- What others cannot have changed. -/
def SoundAlone (mode : UInt8) (inherited : Inherited) (past : List Event)
    (process : Process) : Prop :=
  Begins mode inherited past process ∧ handledIn past = [] ∧
      process.signals.pending .SIGUSR1 = false ∨
    Exact (inherited.settled mode) (inherited.masked mode) past process

theorem run_soundAlone (isMode : IsMode mode)
    (steps : (zad1 keeps mode inherited).RunWithin Alone
      (start mode inherited) trace last) :
    SoundAlone mode inherited trace last := by
  apply steps.history (SoundAlone mode inherited)
  · exact .inl ⟨start_begins, rfl, rfl⟩
  · intro past process action next events sound alone taken
    have move : Move keeps modeSetup process next events := by
      cases action with
      | run => exact step_move taken
      | deliver signal => exact deliver_move taken
      | send => exact absurd rfl alone
    right
    rcases sound with ⟨begins, unhandled, quiet⟩ | exact
    · exact begins.exact isMode (modeSetup_decides isMode) unhandled quiet move
    · exact move.exact (inherited.settled_ne_usr2 mode) exact

/-- However often others send the signal, the program comes to an end once they
stop.  If it returns, it has counted to twenty; if it is terminated, the signal
had the default action, and if it blocked it, it has come to round 10. -/
theorem run_outcome {argv : List Bytes} (parsed : parseInput argv = .ok mode)
    (steps : (zad1 keeps mode inherited).Run (start mode inherited) trace
      last) :
    (zad1 keeps mode inherited).Inevitable Alone (·.point.ended) last ∧
      (∀ code, last.point = .returned code →
        code = 0 ∧ inherited.settled mode ≠ .default ∧
          countedIn trace = List.range' 1 20 ∧ .finished ∈ trace) ∧
      ∀ signal, last.point = .killed signal →
        signal = .SIGUSR1 ∧
          (countedIn trace = [] ∧ inherited.ignored = false ∧
              inherited.blocked = false ∨
            inherited.settled mode = .default ∧
              if inherited.masked mode then
                countedIn trace = List.range' 1 10 ∧ .unblocking ∈ trace
              else countedIn trace <+: List.range' 1 5) := by
  have isMode := isMode_of_parseInput parsed
  have sound := run_sound isMode steps
  refine ⟨sound.inevitable isMode, ?_, ?_⟩
  · intro code here
    rcases sound with begins | surprised | counts
    · cases begins.fresh.here.symm.trans here
    · cases surprised.here.symm.trans here
    · rw [Counts, here] at counts
      exact counts
  · intro signal here
    rcases sound with begins | surprised | counts
    · cases begins.fresh.here.symm.trans here
    · cases surprised.here.symm.trans here
      exact ⟨rfl, .inl ⟨surprised.uncounted, surprised.ignored,
        surprised.blocked⟩⟩
    · rw [Counts, here] at counts
      exact ⟨counts.1, .inr counts.2⟩

/-- If nobody else sends the signal the outcome depends on what is inherited and
on the argument alone, and `custom_handler` runs twice where it is installed. -/
theorem runAlone_outcome {argv : List Bytes}
    (parsed : parseInput argv = .ok mode)
    (steps : (zad1 keeps mode inherited).RunWithin Alone
      (start mode inherited) trace last)
    (ended : last.point.ended) :
    Outcome (inherited.settled mode) (inherited.masked mode) trace last := by
  rcases run_soundAlone (isMode_of_parseInput parsed) steps with
    ⟨begins, _⟩ | exact
  · rw [begins.fresh.here] at ended
    cases ended
  · exact exact.outcome ended

/-- A program that inherits nothing is sent the signal in round 1. -/
private def interfered : Process × List Event :=
  ((zad1 false modeDefault ⟨false, false⟩).execute (fun _ _ => True)
    (start modeDefault ⟨false, false⟩)
    (List.replicate 4 .run ++ [.send, .deliver .SIGUSR1])).get
      (by decide +kernel)

theorem run_outcome_interfered :
    interfered.1.point = .killed .SIGUSR1 ∧
      countedIn interfered.2 <+: List.range' 1 5 := by
  have killed : interfered.1.point = .killed .SIGUSR1 := by decide +kernel
  have parsed : parseInput [bytes "main", bytes "default"] =
      .ok modeDefault := by decide +kernel
  have steps : (zad1 false modeDefault ⟨false, false⟩).Run
      (start modeDefault ⟨false, false⟩) interfered.2 interfered.1 :=
    Machine.execute_get_runWithin _
  have outcome := run_outcome parsed steps
  obtain ⟨_, few | ⟨_, few⟩⟩ := outcome.2.2 .SIGUSR1 killed
  · have none : countedIn interfered.2 = [] := few.1
    exact ⟨killed, none ▸ List.nil_prefix⟩
  · exact ⟨killed, few⟩

/-- A program that blocks the signal is terminated when it unblocks it. -/
private def masking : Process × List Event :=
  ((zad1 false modeMask ⟨false, false⟩).execute Alone
    (start modeMask ⟨false, false⟩)
    (List.replicate 42 .run ++ [.deliver .SIGUSR1])).get (by decide +kernel)

theorem runAlone_outcome_masking :
    masking.1.point = .killed .SIGUSR1 ∧
      countedIn masking.2 = List.range' 1 10 := by
  have parsed : parseInput [bytes "main", bytes "mask"] = .ok modeMask := by
    decide +kernel
  have steps : (zad1 false modeMask ⟨false, false⟩).RunWithin Alone
      (start modeMask ⟨false, false⟩) masking.2 masking.1 :=
    Machine.execute_get_runWithin _
  have outcome := runAlone_outcome parsed steps
    (show masking.1.point.ended by decide +kernel)
  exact ⟨outcome.1, outcome.2.1⟩

end Runs

end SysOp.Lab2.Zad1
