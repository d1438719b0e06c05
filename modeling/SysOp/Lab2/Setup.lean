import SysOp.Lab2.Undisturbed

/-!
# What is set up before the loop

`mode_setup` changes one thing at most: the disposition of `SIGUSR1`, or whether
it is blocked.
-/

namespace SysOp.Lab2

open SysOp.Foundation

/-- What `SIGUSR1` does after `mode_setup`. -/
def settledDisposition (mode : UInt8) (before : Disposition Handler) :
    Disposition Handler :=
  if mode = modeDefault then .default
  else if mode = modeIgnore then .ignore
  else if mode = modeHandle then .handle .custom
  else before

/-- Whether `SIGUSR1` is blocked after `mode_setup`. -/
def settledMask (mode : UInt8) (before : Bool) : Bool :=
  decide (mode = modeMask) || before

/-- The four letters. -/
def IsMode (mode : UInt8) : Prop :=
  mode = modeDefault ∨ mode = modeMask ∨ mode = modeIgnore ∨ mode = modeHandle

/-- What a program finds `SIGUSR1` to be; `SIGUSR2` it finds unblocked and with
its default action. -/
structure Inherited where
  ignored : Bool
  blocked : Bool

namespace Inherited

def disposition (inherited : Inherited) : Disposition Handler :=
  if inherited.ignored then .ignore else .default

def signals (inherited : Inherited) : Sigs where
  disposition := fun signal =>
    if signal = .SIGUSR1 then inherited.disposition else .default
  blocked := fun signal => signal = .SIGUSR1 && inherited.blocked
  pending := fun _ => false
  running := []

/-- What the loop finds `SIGUSR1` to be. -/
abbrev settled (inherited : Inherited) (mode : UInt8) : Disposition Handler :=
  settledDisposition mode inherited.disposition

abbrev masked (inherited : Inherited) (mode : UInt8) : Bool :=
  settledMask mode inherited.blocked

theorem settled_ne_usr2 (mode : UInt8) (inherited : Inherited) :
    inherited.settled mode ≠ .handle .usr2 := by
  unfold Inherited.settled settledDisposition Inherited.disposition
  grind

end Inherited

section Setup

variable {mode : UInt8} {function : Signal → Sigs → Sigs} {signals : Sigs}
  {process : Process} {past : List Event}

theorem isMode_of_parseInput {argv : List Bytes}
    (parsed : parseInput argv = .ok mode) : IsMode mode := by
  unfold parseInput at parsed
  split at parsed
  · split at parsed
    · exact .inl (Except.ok.inj parsed).symm
    · split at parsed
      · exact .inr (.inl (Except.ok.inj parsed).symm)
      · split at parsed
        · exact .inr (.inr (.inl (Except.ok.inj parsed).symm))
        · split at parsed
          · exact .inr (.inr (.inr (Except.ok.inj parsed).symm))
          · cases parsed
  · cases parsed

theorem IsMode.ne_zero (isMode : IsMode mode) : mode.toNat ≠ 0 := by
  rcases isMode with rfl | rfl | rfl | rfl <;> decide

/-- The letter survives being an `int`. -/
theorem ofInt_toNat (mode : UInt8) : UInt8.ofInt mode.toNat = mode := by
  have small : ((mode.toNat : Int) % 2 ^ 8).toNat = mode.toNat := by
    have bound := mode.toNat_lt
    omega
  rw [UInt8.ofInt, small, UInt8.ofNat_toNat]

theorem setupFunction_eq_some (isMode : IsMode mode) :
    ∃ function, setupFunction mode = some function ∧
      (function = sigDefault ∧ mode = modeDefault ∨
        function = sigMask ∧ mode = modeMask ∨
        function = sigIgnore ∧ mode = modeIgnore ∨
        function = sigHandle ∧ mode = modeHandle) := by
  rcases isMode with rfl | rfl | rfl | rfl
  · exact ⟨_, rfl, .inl ⟨rfl, rfl⟩⟩
  · exact ⟨_, rfl, .inr (.inl ⟨rfl, rfl⟩)⟩
  · exact ⟨_, rfl, .inr (.inr (.inl ⟨rfl, rfl⟩))⟩
  · exact ⟨_, rfl, .inr (.inr (.inr ⟨rfl, rfl⟩))⟩

/-- What a function that `mode_setup` calls leaves alone. -/
structure Configures (mode : UInt8) (signals after : Sigs) : Prop where
  disposition : after.disposition .SIGUSR1 =
    settledDisposition mode (signals.disposition .SIGUSR1)
  blocked : after.blocked .SIGUSR1 =
    settledMask mode (signals.blocked .SIGUSR1)
  running : after.running = signals.running
  others : ∀ signal, signal ≠ .SIGUSR1 →
    after.pending signal = signals.pending signal
  pending : signals.pending .SIGUSR1 = false →
    after.pending .SIGUSR1 = false

theorem configures (isMode : IsMode mode) :
    ∃ function, setupFunction mode = some function ∧
      ∀ signals, Configures mode signals (function .SIGUSR1 signals) := by
  obtain ⟨function, same, which⟩ := setupFunction_eq_some isMode
  refine ⟨function, same, fun signals => ?_⟩
  rcases which with ⟨rfl, rfl⟩ | ⟨rfl, rfl⟩ | ⟨rfl, rfl⟩ | ⟨rfl, rfl⟩
  · exact ⟨Signals.disposition_sigaction_self .., rfl, rfl, fun _ _ => rfl, id⟩
  · exact ⟨rfl, Signals.blocked_block_self .., rfl, fun _ _ => rfl, id⟩
  · exact ⟨Signals.disposition_sigaction_self .., rfl, rfl,
      fun _ other => Signals.pending_sigaction_of_ne other,
      Signals.pending_sigaction_eq_false⟩
  · exact ⟨Signals.disposition_sigaction_self .., rfl, rfl, fun _ _ => rfl, id⟩

/-- A process about to call `mode_setup`, before it has printed anything. -/
structure Fresh (process : Process) (past : List Event) : Prop where
  here : process.point = .settingUp
  outside : process.signals.running = []
  alone : ∀ signal, signal ≠ .SIGUSR1 → process.signals.pending signal = false
  uncounted : countedIn past = []

/-- Only `SIGUSR1` can be delivered. -/
theorem Fresh.deliverable (fresh : Fresh process past) {signal : Signal}
    (deliverable : process.signals.Deliverable signal) : signal = .SIGUSR1 := by
  by_contra other
  rw [Signals.Deliverable, fresh.alone signal other] at deliverable
  cases deliverable.1

/-- What the program does when it calls `mode_setup`: it calls the function for
the letter, or it exits. -/
def Setup.Decides (setup : Setup) (mode : UInt8) (configured : Bool) : Prop :=
  if configured then
    ∃ function, setupFunction mode = some function ∧
      ∀ signals, setup mode signals = ([], some (function .SIGUSR1 signals))
  else ∀ signals, setup mode signals = ([], none)

theorem modeSetup_decides {complaint : UInt8 → Bytes}
    (isMode : IsMode mode) : (modeSetup complaint).Decides mode true := by
  obtain ⟨function, same, _⟩ := configures isMode
  refine ⟨function, same, fun signals => ?_⟩
  rw [modeSetup, same]

/-- The program itself calls `mode_setup` next. -/
theorem Fresh.main {keeps : Bool} {setup : Setup} {next : Process}
    {events : List Event} (fresh : Fresh process past) (isMode : IsMode mode)
    (decides : setup.Decides mode true)
    (received : process.receivedMode = mode.toNat)
    (move : MainMove keeps setup process next events) :
    ∃ after, Configures mode process.signals after ∧ events = [] ∧
      next = { process with signals := after, point := .testing 1 } := by
  obtain ⟨function, same, configured⟩ := configures isMode
  obtain ⟨called, found, calls⟩ := decides
  obtain rfl : called = function := Option.some.inj (found.symm.trans same)
  have setup := calls process.signals
  rw [← ofInt_toNat mode, ← received] at setup
  have here := fresh.here
  cases move with
  | setUp _ settled =>
      rw [setup] at settled
      cases settled
      exact ⟨_, configured process.signals, rfl, rfl⟩
  | refuse _ refused =>
      rw [setup] at refused
      cases refused
  | _ => simp_all

/-- The program exits instead. -/
theorem Fresh.refused {keeps : Bool} {setup : Setup} {next : Process}
    {events : List Event} (fresh : Fresh process past)
    (decides : setup.Decides mode false)
    (received : process.receivedMode = mode.toNat)
    (move : MainMove keeps setup process next events) :
    events = [.exited EXIT_FAILURE] ∧
      next = process.goTo (.returned EXIT_FAILURE) := by
  have setup := decides process.signals
  rw [← ofInt_toNat mode, ← received] at setup
  have here := fresh.here
  cases move with
  | setUp _ settled =>
      rw [setup] at settled
      cases settled
  | refuse _ refused =>
      rw [setup] at refused
      cases refused
      exact ⟨rfl, rfl⟩
  | _ => simp_all

theorem Configures.work {after : Sigs}
    (configured : Configures mode process.signals after)
    (here : process.point = .settingUp) :
    { process with signals := after, point := .testing 1 }.work <
      process.work := by
  have bounded : (after.pending .SIGUSR1).toNat ≤ 1 := Bool.toNat_le _
  have pending : process.signals.pending .SIGUSR1 = false →
      after.pending .SIGUSR1 = false := configured.pending
  rw [Process.work, Process.work, here, configured.running]
  simp only [Point.position]
  omega

/-- What the loop will do with `SIGUSR1`, and whether it blocks it. -/
abbrev Process.disposition (process : Process) (mode : UInt8) :
    Disposition Handler :=
  settledDisposition mode (process.signals.disposition .SIGUSR1)

abbrev Process.masked (process : Process) (mode : UInt8) : Bool :=
  settledMask mode (process.signals.blocked .SIGUSR1)

theorem Configures.counts {after : Sigs} (fresh : Fresh process past)
    (configured : Configures mode process.signals after) :
    Counts (process.disposition mode) (process.masked mode) past
      { process with signals := after, point := .testing 1 } := by
  have outside : after.running = [] := configured.running.trans fresh.outside
  refine ⟨⟨Nat.le_refl 6, rfl, Nat.le_of_ble_eq_true rfl,
    configured.disposition, Signals.wellNested_of_running_eq_nil outside,
    ?_, ?_, ?_, ?_⟩, fresh.uncounted, ?_⟩
  · intro signal other
    rw [configured.others signal other]
    exact fresh.alone signal other
  · intro _
    rw [Signals.programMask_eq_blocked outside, configured.blocked]
    exact (Bool.and_true _).symm
  · exact fun _ _ late => absurd late (by decide : ¬ 34 ≤ 6)
  · intro _
    refine ⟨?_, fun late => absurd late (by decide : ¬ 34 ≤ 6)⟩
    split
    · exact (by decide : 6 ≤ 64)
    · exact (by decide : 6 ≤ 34)
  · exact fun _ _ late => absurd late (by decide : ¬ 63 ≤ 6)

theorem Configures.exact {after : Sigs} (fresh : Fresh process past)
    (unhandled : handledIn past = [])
    (quiet : process.signals.pending .SIGUSR1 = false)
    (configured : Configures mode process.signals after) :
    Exact (process.disposition mode) (process.masked mode) past
      { process with signals := after, point := .testing 1 } := by
  have outside : after.running = [] := configured.running.trans fresh.outside
  refine ⟨configured.counts fresh, ?_, ?_, ?_, ?_⟩
  · intro _
    rw [unhandled, outside, configured.pending quiet]
    rfl
  · exact fun _ => ⟨unhandled, outside⟩
  · rw [outside]
    exact fun _ absent => absurd absent List.not_mem_nil
  · rw [unhandled]
    exact fun _ absent => absurd absent List.not_mem_nil

/-- A program about to call `mode_setup` that has changed nothing yet. -/
structure Begins (mode : UInt8) (inherited : Inherited) (past : List Event)
    (process : Process) : Prop where
  fresh : Fresh process past
  mode : process.receivedMode = mode.toNat
  disposition : process.signals.disposition .SIGUSR1 = inherited.disposition
  blocked : process.signals.blocked .SIGUSR1 = inherited.blocked

section Begins

variable {keeps : Bool} {setup : Setup} {inherited : Inherited}
  {next : Process} {events : List Event}

/-- A program that is sent nothing makes a step of its own. -/
theorem Begins.main (begins : Begins mode inherited past process)
    (quiet : process.signals.pending .SIGUSR1 = false)
    (move : Move keeps setup process next events) :
    MainMove keeps setup process next events := by
  have nothing {signal : Signal} {signals : Sigs} {delivery : Delivery Handler}
      (delivered : process.signals.deliver signal =
        some (signals, delivery)) : False := by
    obtain ⟨deliverable, _⟩ := Signals.deliver_eq_some_iff.mp delivered
    obtain rfl := begins.fresh.deliverable deliverable
    rw [Signals.Deliverable, quiet] at deliverable
    cases deliverable.1
  cases move with
  | main _ _ move => exact move
  | handle _ inside =>
      rw [begins.fresh.outside] at inside
      cases inside
  | terminate _ delivered => exact (nothing delivered).elim
  | deliver _ delivered => exact (nothing delivered).elim

theorem Begins.exact (isMode : IsMode mode)
    (decides : setup.Decides mode true)
    (begins : Begins mode inherited past process)
    (unhandled : handledIn past = [])
    (quiet : process.signals.pending .SIGUSR1 = false)
    (move : Move keeps setup process next events) :
    Exact (inherited.settled mode) (inherited.masked mode)
      (past ++ events) next := by
  have main := begins.main quiet move
  obtain ⟨fresh, received, disposition, blocked⟩ := begins
  obtain ⟨after, configured, rfl, rfl⟩ :=
    fresh.main isMode decides received main
  have exact := configured.exact fresh unhandled quiet
  rw [Process.disposition, Process.masked, disposition, blocked] at exact
  rw [List.append_nil]
  exact exact

theorem Begins.refused (decides : setup.Decides mode false)
    (begins : Begins mode inherited past process)
    (quiet : process.signals.pending .SIGUSR1 = false)
    (move : Move keeps setup process next events) :
    events = [.exited EXIT_FAILURE] ∧
      next = process.goTo (.returned EXIT_FAILURE) :=
  begins.fresh.refused decides begins.mode (begins.main quiet move)

end Begins

end Setup

end SysOp.Lab2
