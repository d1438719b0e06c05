import SysOp.Lab2.Zad2

/-!
# `zad3`

The functions of `mode_setup` are in a library.  The child is linked with it, or,
with `USE_DYNAMIC`, loads it when it knows the mode.
-/

namespace SysOp.Lab2.Zad3

open SysOp.Foundation

/-- What `dlsym` finds in a library. -/
abbrev Library := Bytes → Option (Signal → Sigs → Sigs)

/-- What `sig_default.c`, `sig_mask.c`, `sig_ignore.c` and `sig_handle.c` are
built to. -/
def libsigHandler : Library := fun name =>
  if name = bytes "sig_default" then some sigDefault
  else if name = bytes "sig_mask" then some sigMask
  else if name = bytes "sig_ignore" then some sigIgnore
  else if name = bytes "sig_handle" then some sigHandle
  else none

def funcName (mode : UInt8) : Option Bytes :=
  if mode = modeDefault then some (bytes "sig_default")
  else if mode = modeMask then some (bytes "sig_mask")
  else if mode = modeIgnore then some (bytes "sig_ignore")
  else if mode = modeHandle then some (bytes "sig_handle")
  else none

def msg : Bytes :=
  bytes "improper mode passed into mode_setup\n"

/-- `mode_setup` without `USE_DYNAMIC`. -/
def staticSetup : Setup :=
  Lab2.modeSetup fun _ => msg

/-- `mode_setup` with `USE_DYNAMIC`; `dlopen` may find no library. -/
def dynamicSetup (library : Option Library) : Setup := fun mode signals =>
  match funcName mode with
  | none => ([.complained msg], none)
  | some name =>
      match library with
      | none => ([], none)
      | some symbols =>
          match symbols name with
          | none => ([], none)
          | some handlerFunc => ([], some (handlerFunc .SIGUSR1 signals))

def zad3 (keeps : Bool) (setup : Setup) (mode : UInt8)
    (inherited : Inherited) : Machine Family Act Event :=
  family keeps setup mode inherited

section Runs

variable {keeps : Bool} {mode : UInt8} {inherited : Inherited}
  {last : Family} {trace : List Event}

theorem dynamicSetup_eq (isMode : IsMode mode) :
    dynamicSetup (some libsigHandler) mode = staticSetup mode := by
  rcases isMode with rfl | rfl | rfl | rfl <;> rfl

/-- With the library it is made for, the child that loads it does what the child
linked with it does. -/
theorem run_iff {argv : List Bytes} (parsed : parseInput argv = .ok mode) :
    (zad3 keeps (dynamicSetup (some libsigHandler)) mode inherited).Run
        Family.start trace last ↔
      (zad3 keeps staticSetup mode inherited).Run Family.start trace last := by
  have isMode := isMode_of_parseInput parsed
  have agree := dynamicSetup_eq isMode
  have linked : staticSetup.Decides mode true := modeSetup_decides isMode
  have loaded : (dynamicSetup (some libsigHandler)).Decides mode true := by
    obtain ⟨function, same, calls⟩ := linked
    refine ⟨function, same, fun signals => ?_⟩
    rw [agree]
    exact calls signals
  exact ⟨run_congr isMode loaded agree, run_congr isMode linked agree.symm⟩

/-- The child has loaded the library, blocked `SIGUSR1` and begun to count. -/
private def loaded : Family × List Event :=
  ((zad3 false (dynamicSetup (some libsigHandler)) modeMask
    ⟨false, false⟩).execute (fun _ _ => True) Family.start
    ([.parent, .parent] ++ List.replicate 4 .child ++
      [.parent, .deliver .SIGUSR2] ++ List.replicate 5 .child)).get
    (by decide +kernel)

theorem run_iff_masking :
    loaded.2 = [.counted 1] ∧
      loaded.1.child.map (·.signals.blocked .SIGUSR1) = some true ∧
      (zad3 false staticSetup modeMask ⟨false, false⟩).Run Family.start
        loaded.2 loaded.1 := by
  have parsed : parseInput [bytes "main", bytes "mask"] = .ok modeMask := by
    decide +kernel
  have steps : (zad3 false (dynamicSetup (some libsigHandler)) modeMask
      ⟨false, false⟩).Run Family.start loaded.2 loaded.1 :=
    Machine.execute_get_runWithin _
  exact ⟨by decide +kernel, by decide +kernel, (run_iff parsed).mp steps⟩

/-- What the child finds for the mode. -/
def Found (library : Option Library) (mode : UInt8) : Prop :=
  ∃ symbols name, library = some symbols ∧ funcName mode = some name ∧
    (symbols name).isSome

theorem dynamicSetup_refuses {library : Option Library} (isMode : IsMode mode)
    (missing : ¬ Found library mode) :
    (dynamicSetup library).Decides mode false := by
  intro signals
  obtain ⟨name, named⟩ : ∃ name, funcName mode = some name := by
    rcases isMode with rfl | rfl | rfl | rfl <;> exact ⟨_, rfl⟩
  rw [dynamicSetup, named]
  cases library with
  | none => rfl
  | some symbols =>
      cases found : symbols name with
      | none => simp only [found]
      | some function =>
          exact absurd ⟨symbols, name, rfl, named, by rw [found]; rfl⟩ missing

/-- Without the library, or the function in it, the child prints nothing but
exits in `mode_setup`, and its parent returns as if nothing had happened. -/
theorem run_missing {argv : List Bytes} {library : Option Library}
    (parsed : parseInput argv = .ok mode) (missing : ¬ Found library mode)
    (steps : (zad3 keeps (dynamicSetup library) mode inherited).Run
      Family.start trace last) :
    trace.flatMap Event.text = [] ∧
      (last.parent = .sending →
        (∃ child, last.child = some child ∧
          (child.point = .testingMode ∨ child.point = .pausing)) →
        ∀ {after : Family} {events : List Event},
          (zad3 keeps (dynamicSetup library) mode inherited).step last .parent =
            some (after, events) →
        (zad3 keeps (dynamicSetup library) mode inherited).Inevitable
          (fun _ _ => True) (Reaped (.returned EXIT_FAILURE)) after) := by
  have isMode := isMode_of_parseInput parsed
  have decides := dynamicSetup_refuses isMode missing
  refine ⟨(run_sound isMode decides steps).silent, ?_⟩
  rintro here ⟨child, same, point⟩ after events taken
  obtain ⟨other, also, comes⟩ :=
    sigqueue_comes isMode decides steps here taken
  cases same.symm.trans also
  rcases point with point | point <;> rw [point] at comes <;> exact comes

/-- The child is in `pause`, and there is no library. -/
private def unloaded : Family × List Event :=
  ((zad3 false (dynamicSetup none) modeMask ⟨false, false⟩).execute
    (fun _ _ => True) Family.start
    [.parent, .parent, .child, .child, .child, .child]).get (by decide +kernel)

theorem run_missing_unloaded :
    ∃ after,
      (zad3 false (dynamicSetup none) modeMask ⟨false, false⟩).step unloaded.1
          .parent = some (after, []) ∧
        (zad3 false (dynamicSetup none) modeMask ⟨false, false⟩).Inevitable
          (fun _ _ => True) (Reaped (.returned EXIT_FAILURE)) after := by
  have parsed : parseInput [bytes "main", bytes "mask"] = .ok modeMask := by
    decide +kernel
  have steps : (zad3 false (dynamicSetup none) modeMask ⟨false, false⟩).Run
      Family.start unloaded.2 unloaded.1 := Machine.execute_get_runWithin _
  have point : unloaded.1.child.map (·.point) = some .pausing := by
    decide +kernel
  obtain ⟨child, same, here⟩ := Option.map_eq_some_iff.mp point
  have missing : ¬ Found none modeMask := by
    rintro ⟨_, _, absent, _⟩
    cases absent
  have outcome := run_missing parsed missing steps
  exact ⟨_, rfl, outcome.2 (by decide +kernel) ⟨child, same, .inr here⟩ rfl⟩

end Runs

end SysOp.Lab2.Zad3
