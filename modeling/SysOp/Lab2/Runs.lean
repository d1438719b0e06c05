import SysOp.Lab2.Race

/-!
# Every run of the family

What is known of the child at each stage of its parent.
-/

namespace SysOp.Lab2

open SysOp.Foundation

/-- `SIGKILL` ends a child that has not been told anything. -/
def Slain (past : List Event) (process : Process) : Prop :=
  process.point.ended = false ∧ past = [] ∧ process.signals.running = [] ∧
      (∀ signal, process.signals.pending signal = decide (signal = .SIGKILL)) ∧
      process.signals.blocked .SIGKILL = false ∧
      process.signals.disposition .SIGKILL = .default ∨
    process.point = .killed .SIGKILL ∧ past = [.killed .SIGKILL]

/-- A child that has been sent the message. -/
def Fate (configured : Bool) (mode : UInt8) (inherited : Inherited)
    (past : List Event) (process : Process) : Prop :=
  Doomed mode inherited past process ∨
    Heard configured mode inherited past process ∨
    (∃ message, Missed mode inherited message past process) ∨
    GaveUp past process

/-- What is known of a family after its history. -/
def Sound (configured : Bool) (mode : UInt8) (inherited : Inherited)
    (past : List Event) (family : Family) : Prop :=
  match family.parent with
  | .forking => family.child = none ∧ past = []
  | .sleeping | .sending | .killing =>
      ∃ process, family.child = some process ∧
        (Waits mode inherited .unsent past process ∨ GaveUp past process)
  | .waiting =>
      ∃ process, family.child = some process ∧
        Fate configured mode inherited past process
  | .returned code =>
      (code = 0 ∧ ∃ process, family.child = some process ∧
          process.point.ended ∧ Fate configured mode inherited past process) ∨
        (code = EXIT_FAILURE ∧ family.child = none ∧ past = []) ∨
        code = EXIT_FAILURE ∧ ∃ process, family.child = some process ∧
          (Slain past process ∨ GaveUp past process)

section Runs

variable {keeps : Bool} {setup : Setup} {mode : UInt8} {inherited : Inherited}
  {process next : Process} {family after : Family}
  {events past trace : List Event} {configured : Bool}

theorem GaveUp.not_move (gaveUp : GaveUp past process)
    (move : ChildMove keeps setup process next events) : False := by
  have alive := move.alive
  rw [gaveUp.1] at alive
  cases alive

theorem GaveUp.sent (gaveUp : GaveUp past process) {signal : Signal} :
    GaveUp past (process.sent keeps signal) := by
  rw [Process.sent, gaveUp.1]
  exact gaveUp

theorem GaveUp.sigqueue (gaveUp : GaveUp past process) :
    GaveUp past (process.sigqueue keeps .SIGUSR2 mode) :=
  gaveUp.sent

/-- Where the message finds the child decides what becomes of it. -/
theorem Waits.fate (waits : Waits mode inherited .unsent past process) :
    Fate configured mode inherited past
      (process.sigqueue keeps .SIGUSR2 mode) := by
  have pending : Waits mode inherited .pending past
      (process.sigqueue keeps .SIGUSR2 mode) := waits.sigqueue
  have early := waits.early
  have same : (process.sigqueue keeps .SIGUSR2 mode).point = process.point := by
    rw [Process.sigqueue, Process.sent]
    split <;> rfl
  cases here : process.point with
  | executing | installing => exact .inl (.inl ⟨pending, by rw [same, here]; rfl⟩)
  | testingMode =>
      exact .inr (.inl (.inl ⟨.pending, pending, by decide,
        .inl (same.trans here)⟩))
  | pausing =>
      exact .inr (.inl (.inl ⟨.pending, pending, by decide,
        .inr ⟨same.trans here, by decide⟩⟩))
  | callingPause =>
      exact .inr (.inr (.inl ⟨.pending, pending, by decide,
        .inl (same.trans here)⟩))
  | _ =>
      rw [here] at early
      cases early

theorem Fate.move (isMode : IsMode mode)
    (decides : setup.Decides mode configured)
    (fate : Fate configured mode inherited past process)
    (move : ChildMove keeps setup process next events) :
    Fate configured mode inherited (past ++ events) next := by
  rcases fate with doomed | heard | ⟨message, missed⟩ | gaveUp
  · exact .inl (.inr (doomed.move move))
  · exact .inr (.inl (heard.move isMode decides move))
  · obtain ⟨rfl, ⟨_, missed⟩ | ⟨_, missed⟩ | ⟨_, _, missed⟩⟩ :=
      missed.move isMode move <;>
      exact .inr (.inr (.inl ⟨_, by rwa [List.append_nil]⟩))
  · exact (gaveUp.not_move move).elim

theorem Waits.slain (waits : Waits mode inherited .unsent past process) :
    Slain past (process.sent keeps .SIGKILL) := by
  have going := waits.going
  rw [Process.sent, if_neg (Bool.eq_false_iff.mp going)]
  refine .inl ⟨going, waits.silent, ?_, ?_, ?_, ?_⟩
  · rw [Process.receive, Signals.running_generate]
    exact waits.outside (by decide)
  · intro signal
    by_cases own : signal = .SIGKILL
    · subst own
      apply Signals.pending_generate_self
      rw [waits.killable]
      rintro ⟨⟩
    · rw [Process.receive, Signals.pending_generate_of_ne _ _ _ own,
        waits.pending, decide_eq_false own]
      rfl
  · rw [Process.receive, Signals.blocked_generate,
      ← Signals.programMask_eq_blocked (waits.outside (by decide))]
    exact waits.unmasked .SIGKILL (by decide)
  · rw [Process.receive, Signals.disposition_generate]
    exact waits.killable

theorem Slain.move (slain : Slain past process)
    (move : ChildMove keeps setup process next events) :
    next.point = .killed .SIGKILL ∧ past ++ events = [.killed .SIGKILL] := by
  rcases slain with ⟨_, rfl, outside, pending, free, fatal⟩ | ⟨ended, _⟩
  · have due : process.signals.Deliverable .SIGKILL := ⟨pending .SIGKILL, free⟩
    have move := move.move_of_ne (.inr fun ready => ready .SIGKILL due)
    have own {signal : Signal}
        (deliverable : process.signals.Deliverable signal) :
        signal = .SIGKILL := by
      have one := deliverable.1
      rw [pending, decide_eq_true_iff] at one
      exact one
    cases move with
    | main ready => exact absurd due (ready .SIGKILL)
    | handle _ inside =>
        rw [outside] at inside
        cases inside
    | terminate _ delivered =>
        obtain ⟨deliverable, _⟩ := Signals.deliver_eq_some_iff.mp delivered
        obtain rfl := own deliverable
        exact ⟨rfl, rfl⟩
    | deliver _ delivered spared =>
        obtain ⟨deliverable, _⟩ := Signals.deliver_eq_some_iff.mp delivered
        obtain rfl := own deliverable
        exact absurd fatal spared
  · have alive := move.alive
    rw [ended] at alive
    cases alive

/-- Before the message the child waits, or `execl` has failed. -/
theorem unsent_move
    (stage : Waits mode inherited .unsent past process ∨ GaveUp past process)
    (move : ChildMove keeps setup process next events) :
    Waits mode inherited .unsent (past ++ events) next ∨
      GaveUp (past ++ events) next := by
  rcases stage with waits | gaveUp
  · cases move with
    | move move =>
        obtain ⟨rfl, waits⟩ := waits.unsent move
        exact .inl (by rwa [List.append_nil])
    | fail =>
        rw [waits.silent]
        exact .inr ⟨rfl, rfl⟩
  · exact (gaveUp.not_move move).elim

theorem Sound.move (isMode : IsMode mode)
    (decides : setup.Decides mode configured)
    (sound : Sound configured mode inherited past family)
    (move : FamilyMove keeps setup mode inherited family after events) :
    Sound configured mode inherited (past ++ events) after := by
  cases move with
  | fork here =>
      rw [Sound, here] at sound
      obtain ⟨_, rfl⟩ := sound
      exact ⟨_, rfl, .inl child_waits⟩
  | forkFails here =>
      rw [Sound, here] at sound
      obtain ⟨absent, rfl⟩ := sound
      exact .inr (.inl ⟨rfl, absent, rfl⟩)
  | wake here =>
      rw [Sound, here] at sound
      rw [List.append_nil]
      exact sound
  | sendFails here =>
      rw [Sound, here] at sound
      rw [List.append_nil]
      exact sound
  | send here =>
      rw [Sound, here] at sound
      obtain ⟨process, child, stage⟩ := sound
      rw [List.append_nil, child]
      refine ⟨_, rfl, ?_⟩
      rcases stage with waits | gaveUp
      · exact waits.fate
      · exact .inr (.inr (.inr gaveUp.sigqueue))
  | kill here =>
      rw [Sound, here] at sound
      obtain ⟨process, child, stage⟩ := sound
      rw [List.append_nil, child]
      refine .inr (.inr ⟨rfl, _, rfl, ?_⟩)
      rcases stage with waits | gaveUp
      · exact .inl waits.slain
      · exact .inr gaveUp.sent
  | wait here child ended =>
      rw [Sound, here] at sound
      obtain ⟨process, same, fate⟩ := sound
      cases child.symm.trans same
      rw [List.append_nil]
      exact .inl ⟨rfl, _, child, ended, fate⟩
  | child child move =>
      rw [Sound] at sound ⊢
      dsimp only
      cases here : family.parent with
      | forking =>
          rw [here] at sound
          cases child.symm.trans sound.1
      | sleeping | sending | killing =>
          rw [here] at sound
          obtain ⟨process, same, stage⟩ := sound
          cases child.symm.trans same
          exact ⟨_, rfl, unsent_move stage move⟩
      | waiting =>
          rw [here] at sound
          obtain ⟨process, same, fate⟩ := sound
          cases child.symm.trans same
          exact ⟨_, rfl, fate.move isMode decides move⟩
      | returned code =>
          rw [here] at sound
          rcases sound with ⟨_, process, same, ended, _⟩ | ⟨_, absent, _⟩ |
            ⟨failed, process, same, slain | gaveUp⟩
          · cases child.symm.trans same
            have alive := move.alive
            rw [ended] at alive
            cases alive
          · cases child.symm.trans absent
          · cases child.symm.trans same
            exact .inr (.inr ⟨failed, _, rfl, .inl (.inr (slain.move move))⟩)
          · cases child.symm.trans same
            exact (gaveUp.not_move move).elim

theorem run_sound (isMode : IsMode mode)
    (decides : setup.Decides mode configured)
    (steps : (Lab2.family keeps setup mode inherited).Run Family.start trace
      family) :
    Sound configured mode inherited trace family :=
  steps.history (Sound configured mode inherited) ⟨rfl, rfl⟩
    fun sound _ taken => sound.move isMode decides (Family.step_move taken)

/-- A child calls `mode_setup` with the mode. -/
theorem Sound.told (sound : Sound configured mode inherited past family)
    (child : family.child = some process) (ready : process.Ready)
    (here : process.point = .settingUp) :
    UInt8.ofInt process.receivedMode = mode := by
  have early {message : Message}
      (waits : Waits mode inherited message past process) : False := by
    have early := waits.early
    rw [here] at early
    cases early
  have gone (gaveUp : GaveUp past process) : False := by
    cases here.symm.trans gaveUp.1
  have fated (fate : Fate configured mode inherited past process) :
      UInt8.ofInt process.receivedMode = mode := by
    rcases fate with (⟨waits, _⟩ | ⟨killed, _⟩) | (⟨_, told⟩ | knows) |
      ⟨_, missed⟩ | gaveUp
    · exact (early waits).elim
    · cases here.symm.trans killed
    · exact (early told.waits).elim
    · rcases knows with ⟨begins, _⟩ | ends
      · rw [begins.mode, ofInt_toNat]
      · cases configured with
        | true =>
            have going : process.point.ended = false := by
              rw [here]
              rfl
            obtain ⟨counts, _⟩ := (exact_iff going).mp ends
            have begun := ((counts_iff going).mp counts).1.begun
            rw [here] at begun
            exact absurd begun (by decide)
        | false => exact (gone ends).elim
    · exact (early missed.waits).elim
    · exact (gone gaveUp).elim
  rw [Sound] at sound
  cases stage : family.parent with
  | forking =>
      rw [stage] at sound
      cases child.symm.trans sound.1
  | sleeping | sending | killing =>
      rw [stage] at sound
      obtain ⟨other, same, waits | gaveUp⟩ := sound
      · cases child.symm.trans same
        exact (early waits).elim
      · cases child.symm.trans same
        exact (gone gaveUp).elim
  | waiting =>
      rw [stage] at sound
      obtain ⟨other, same, fate⟩ := sound
      cases child.symm.trans same
      exact fated fate
  | returned code =>
      rw [stage] at sound
      rcases sound with ⟨_, other, same, _, fate⟩ | ⟨_, absent, _⟩ |
        ⟨_, other, same, slain | gaveUp⟩
      · cases child.symm.trans same
        exact fated fate
      · cases child.symm.trans absent
      · cases child.symm.trans same
        rcases slain with ⟨_, _, _, pending, free, _⟩ | ⟨killed, _⟩
        · exact absurd ⟨pending .SIGKILL, free⟩ (ready .SIGKILL)
        · cases here.symm.trans killed
      · cases child.symm.trans same
        exact (gone gaveUp).elim

/-- A child that cannot be configured prints nothing. -/
theorem Sound.silent (sound : Sound false mode inherited past family) :
    past.flatMap Event.text = [] := by
  have quiet {message : Message} {process : Process}
      (waits : Waits mode inherited message past process) :
      past.flatMap Event.text = [] := by
    rw [waits.silent]
    rfl
  have gone {process : Process} (gaveUp : GaveUp past process) :
      past.flatMap Event.text = [] := by
    rw [gaveUp.2]
    rfl
  have fated {process : Process}
      (fate : Fate false mode inherited past process) :
      past.flatMap Event.text = [] := by
    rcases fate with (⟨waits, _⟩ | ⟨_, rfl⟩) | (⟨_, told⟩ | ⟨_, rfl, _⟩ | ends) |
      ⟨_, missed⟩ | gaveUp
    · exact quiet waits
    · rfl
    · exact quiet told.waits
    · rfl
    · exact gone ends
    · exact quiet missed.waits
    · exact gone gaveUp
  rw [Sound] at sound
  cases stage : family.parent with
  | forking =>
      rw [stage] at sound
      rw [sound.2]
      rfl
  | sleeping | sending | killing =>
      rw [stage] at sound
      obtain ⟨_, _, waits | gaveUp⟩ := sound
      · exact quiet waits
      · exact gone gaveUp
  | waiting =>
      rw [stage] at sound
      obtain ⟨_, _, fate⟩ := sound
      exact fated fate
  | returned code =>
      rw [stage] at sound
      rcases sound with ⟨_, _, _, _, fate⟩ | ⟨_, _, rfl⟩ |
        ⟨_, _, _, (⟨_, rfl, _⟩ | ⟨_, rfl⟩) | gaveUp⟩
      · exact fated fate
      · rfl
      · rfl
      · rfl
      · exact gone gaveUp

/-- Only what `mode_setup` does with the mode matters. -/
theorem Sound.step_congr {other : Setup} (agree : setup mode = other mode)
    (sound : Sound configured mode inherited past family) (act : Act) :
    family.step keeps setup mode inherited act =
      family.step keeps other mode inherited act := by
  cases act with
  | child =>
      simp only [Family.step, Family.childStep]
      cases child : family.child with
      | none => rfl
      | some process =>
          have same : process.step keeps setup = process.step keeps other := by
            unfold Process.step
            split
            next free =>
              split
              next => rfl
              next =>
                unfold Process.mainStep
                dsimp only
                split
                case h_6 here => rw [sound.told child free.2 here, agree]
                all_goals rfl
            next => rfl
          dsimp only
          rw [same]
  | _ => rfl

theorem run_congr {other : Setup} (isMode : IsMode mode)
    (decides : setup.Decides mode configured)
    (agree : setup mode = other mode)
    (steps : (Lab2.family keeps setup mode inherited).Run Family.start trace
      family) :
    (Lab2.family keeps other mode inherited).Run Family.start trace family := by
  have both := steps.history (fun past state =>
    Sound configured mode inherited past state ∧
      (Lab2.family keeps other mode inherited).Run Family.start past state)
    ⟨⟨rfl, rfl⟩, .refl _⟩ ?_
  · exact both.2
  · rintro past state act next events ⟨sound, run⟩ _ taken
    refine ⟨sound.move isMode decides (Family.step_move taken), ?_⟩
    exact .tail run trivial ((sound.step_congr agree act).symm.trans taken)

/-- What comes of the message that is sent now. -/
theorem sigqueue_comes (isMode : IsMode mode)
    (decides : setup.Decides mode configured)
    (steps : (Lab2.family keeps setup mode inherited).Run Family.start past
      family)
    (here : family.parent = .sending)
    (taken : family.step keeps setup mode inherited .parent =
      some (after, events)) :
    ∃ child, family.child = some child ∧
      match child.point with
      | .executing | .installing =>
          Comes keeps setup mode inherited (Reaped (.killed .SIGUSR2)) after
      | .testingMode | .pausing =>
          Comes keeps setup mode inherited
            (Reaped (lastPoint configured (inherited.settled mode))) after
      | .callingPause =>
          Comes keeps setup mode inherited (Stuck keeps setup mode inherited)
            after
      | point =>
          point = .returned EXIT_FAILURE ∧
            Comes keeps setup mode inherited (Reaped point) after := by
  have sound := run_sound isMode decides steps
  rw [Sound, here] at sound
  obtain ⟨child, same, stage⟩ := sound
  have sent : after = ⟨.waiting, some (child.sigqueue keeps .SIGUSR2 mode)⟩ := by
    rw [Family.step, Family.parentStep, here, same] at taken
    cases taken
    rfl
  rw [sent]
  refine ⟨child, same, ?_⟩
  rcases stage with waits | gaveUp
  · have pending : Waits mode inherited .pending past
        (child.sigqueue keeps .SIGUSR2 mode) := waits.sigqueue
    have early := waits.early
    have kept : (child.sigqueue keeps .SIGUSR2 mode).point = child.point := by
      rw [Process.sigqueue, Process.sent]
      split <;> rfl
    cases point : child.point with
    | executing | installing =>
        exact Doomed.comes (.inl ⟨pending, by rw [kept, point]; rfl⟩)
    | testingMode =>
        exact Told.comes isMode decides
          ⟨pending, by decide, .inl (kept.trans point)⟩
    | pausing =>
        exact Told.comes isMode decides
          ⟨pending, by decide, .inr ⟨kept.trans point, by decide⟩⟩
    | callingPause =>
        exact Missed.comes isMode ⟨pending, by decide, .inl (kept.trans point)⟩
    | _ =>
        rw [point] at early
        cases early
  · have queued : GaveUp past (child.sigqueue keeps .SIGUSR2 mode) :=
      gaveUp.sigqueue
    rw [gaveUp.1]
    exact ⟨rfl, comes_of_ended (by rw [queued.1]; rfl)
      ⟨rfl, _, rfl, queued.1⟩⟩

/-- Nothing is left that runs. -/
def Family.Ended (family : Family) : Prop :=
  ∀ process, family.child = some process → process.point.ended

/-- The child is killed when its parent could not send it the message. -/
theorem Slain.comes {code : Nat} (slain : Slain past process) :
    Comes keeps setup mode inherited Family.Ended
      ⟨.returned code, some process⟩ := by
  rcases id slain with ⟨going, _, _, pending, free, fatal⟩ | ⟨ended, _⟩
  · apply Machine.Inevitable.onward
    · refine ⟨.deliver .SIGKILL, trivial, ?_⟩
      change (Option.map _ (process.deliver .SIGKILL)).isSome
      have due : process.signals.Deliverable .SIGKILL := ⟨pending .SIGKILL, free⟩
      rw [Option.isSome_map, Process.deliver, if_neg (Bool.eq_false_iff.mp going),
        Signals.deliver, if_pos due, fatal]
      rfl
    · intro act family events _ taken
      have move : FamilyMove keeps setup mode inherited _ family events :=
        Family.step_move taken
      cases move with
      | child same move =>
          cases same
          refine .reached fun killed same => ?_
          cases same
          rw [(slain.move move).1]
          rfl
      | _ here => cases here
  · refine .reached fun killed same => ?_
    cases same
    rw [ended]
    rfl

/-- What comes of the child when the message was sent. -/
def Verdict (configured : Bool) (disposition : Disposition Handler)
    (masked : Bool) (trace : List Event) (child : Process) : Prop :=
  GaveUp trace child ∨
    (child.point = .killed .SIGUSR2 ∧ trace = [.killed .SIGUSR2]) ∨
    configured ∧ Outcome disposition masked trace child

theorem Fate.verdict (fate : Fate configured mode inherited past process)
    (ended : process.point.ended) :
    Verdict configured (inherited.settled mode) (inherited.masked mode) past
      process := by
  have gone {message : Message}
      (waits : Waits mode inherited message past process) : False := by
    have going := waits.going
    rw [ended] at going
    cases going
  rcases fate with (⟨waits, _⟩ | killed) | (⟨_, told⟩ | knows) | ⟨_, missed⟩ |
    gaveUp
  · exact (gone waits).elim
  · exact .inr (.inl killed)
  · exact (gone told.waits).elim
  · rcases knows with ⟨begins, _⟩ | ends
    · rw [begins.fresh.here] at ended
      cases ended
    · cases configured with
      | true => exact .inr (.inr ⟨rfl, Exact.outcome ends ended⟩)
      | false => exact .inl ends
  · exact (gone missed.waits).elim
  · exact .inl gaveUp

/-- A parent that returns leaves no child behind. -/
theorem run_verdict (isMode : IsMode mode)
    (decides : setup.Decides mode configured)
    (steps : (Lab2.family keeps setup mode inherited).Run Family.start trace
      family)
    {code : Nat} (here : family.parent = .returned code) :
    (code = 0 ∧ ∃ child, family.child = some child ∧
        Verdict configured (inherited.settled mode) (inherited.masked mode)
          trace child) ∨
      code = EXIT_FAILURE ∧ countedIn trace = [] ∧
        Comes keeps setup mode inherited Family.Ended family := by
  have sound := run_sound isMode decides steps
  rw [Sound, here] at sound
  obtain ⟨parent, child⟩ := family
  dsimp only at here sound ⊢
  subst here
  rcases sound with ⟨rfl, process, same, ended, fate⟩ | ⟨rfl, absent, rfl⟩ |
    ⟨rfl, process, same, slain | gaveUp⟩
  · exact .inl ⟨rfl, process, same, fate.verdict ended⟩
  · subst absent
    exact .inr ⟨rfl, rfl, .reached fun _ same => by cases same⟩
  · subst same
    refine .inr ⟨rfl, ?_, slain.comes⟩
    rcases slain with ⟨_, rfl, _⟩ | ⟨_, rfl⟩ <;> rfl
  · subst same
    refine .inr ⟨rfl, ?_, .reached fun other same => ?_⟩
    · rw [gaveUp.2]
      rfl
    · cases same
      rw [gaveUp.1]
      rfl

end Runs

end SysOp.Lab2
