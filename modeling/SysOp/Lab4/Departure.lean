import SysOp.Lab4.Registration

/-!
# Clients that leave

The server never takes a client out of its registry.  A client that is gone
no longer empties its queue, and a full queue without a reader stops the
server for good: what decides is whether the server still has to send to
such a queue before it is back at `mq_receive`.
-/

namespace SysOp.Lab4

open SysOp.Foundation

/-- Both processes of the client have exited, or the only one there was. -/
def Client.departed (client : Client) : Prop :=
  match client.parent, client.child with
  | .exited, .notForked | .exited, .exited => True
  | _, _ => False

def Client.full (client : Client) : Prop := MAX_MSG ≤ client.queue.length

/-- The next step of the parent makes the client depart. -/
def Client.parentLeaves (client : Client) : Prop :=
  match client.parent, client.child with
  | .killing, .notForked | .killing, .exited => True
  | _, _ => False

/-- The next step of the child makes the client depart. -/
def Client.childLeaves (client : Client) : Prop :=
  match client.parent, client.child with
  | .exited, .unlinking => True
  | _, _ => False

/-- The queue of the `mq_send` the server is at. -/
def State.sendingTo (state : State) : Option Nat :=
  match state.point with
  | .replying clientQ _ => some clientQ
  | .broadcasting msg i =>
      if i < state.registry.activeClients then state.registry.target msg i
      else none
  | _ => none

/-- The server waits in `mq_send` on a queue nobody reads any more. -/
def State.Stranded (state : State) : Prop :=
  ∃ clientQ ∈ state.sendingTo, ∃ client ∈ state.clients[clientQ]?,
    client.departed ∧ client.full

/-- The server has to send to this queue before it receives again. -/
def State.Owes (state : State) (clientQ : Nat) : Prop :=
  match state.point with
  | .receiving => False
  | .dispatching msg => msg.type = .msgText ∧
      ∃ i, i < state.registry.activeClients ∧
        state.registry.target msg i = some clientQ
  | .replying other _ => other = clientQ
  | .broadcasting msg first =>
      ∃ i, i < state.registry.activeClients ∧ first ≤ i ∧
        state.registry.target msg i = some clientQ

/-- Such a queue is full and its client gone. -/
def State.Doomed (state : State) : Prop :=
  ∃ clientQ client, state.Owes clientQ ∧
    state.clients[clientQ]? = some client ∧ client.departed ∧ client.full

/-- The message the next `mq_receive` of the server returns. -/
def State.upcoming (state : State) : Option ChatMessage :=
  match state.point with
  | .receiving => state.serverQ.head?
  | _ => none

/-- The server takes a text only if no client it would have to send it to is
gone with a full queue, and no client goes with a full queue that the server
still has to send to. -/
def Considerate (state : State) : Action → Prop
  | .server =>
      ∀ msg ∈ state.upcoming, msg.type = .msgText →
        ∀ i < state.registry.activeClients,
          ∀ clientQ ∈ state.registry.target msg i,
            ∀ client ∈ state.clients[clientQ]?,
              ¬ (client.departed ∧ client.full)
  | .parent index _ =>
      ∀ client ∈ state.clients[index]?,
        client.parentLeaves → state.Owes index → ¬ client.full
  | .child index =>
      ∀ client ∈ state.clients[index]?,
        client.childLeaves → state.Owes index → ¬ client.full
  | _ => True

section Decidable

instance (client : Client) : Decidable client.departed := by
  unfold Client.departed
  split <;> infer_instance

instance (client : Client) : Decidable client.full :=
  inferInstanceAs (Decidable (_ ≤ _))

instance (client : Client) : Decidable client.parentLeaves := by
  unfold Client.parentLeaves
  split <;> infer_instance

instance (client : Client) : Decidable client.childLeaves := by
  unfold Client.childLeaves
  split <;> infer_instance

instance (state : State) : Decidable state.Stranded :=
  inferInstanceAs (Decidable (∃ clientQ ∈ _, ∃ client ∈ _, _))

instance (state : State) (clientQ : Nat) : Decidable (state.Owes clientQ) := by
  unfold State.Owes
  split <;> infer_instance

instance (state : State) (action : Action) :
    Decidable (Considerate state action) := by
  unfold Considerate
  split <;> infer_instance

end Decidable

/-- A stranded server owes its message to the queue it waits for. -/
theorem State.Stranded.doomed {state : State} (stranded : state.Stranded) :
    state.Doomed := by
  obtain ⟨clientQ, sending, client, found, clogged⟩ := stranded
  refine ⟨clientQ, client, ?_, found, clogged⟩
  rw [Option.mem_def] at sending
  unfold State.sendingTo at sending
  unfold State.Owes
  split at sending
  case h_1 here => simpa [here] using sending
  case h_2 msg i here =>
    split at sending
    case isTrue active =>
      simp only [here]
      exact ⟨i, active, le_rfl, sending⟩
    case isFalse => simp at sending
  case h_3 => simp at sending

section Client

variable {index : Nat} {serverQ after : List ChatMessage}
  {client moved : Client} {events : List Event}

theorem Client.departed.parent (departed : client.departed) :
    client.parent = .exited := by
  unfold Client.departed at departed
  split at departed
  case h_1 exited _ => exact exited
  case h_2 exited _ => exact exited
  case h_3 => exact departed.elim

theorem Client.departed.child (departed : client.departed) :
    client.child = .notForked ∨ client.child = .exited := by
  unfold Client.departed at departed
  split at departed
  case h_1 _ notForked => exact .inl notForked
  case h_2 _ exited => exact .inr exited
  case h_3 => exact departed.elim

/-- A client that is gone does nothing any more. -/
theorem ClientMove.not_departed
    (move : ClientMove index serverQ client after moved events) :
    ¬ client.departed := by
  intro departed
  have parent := departed.parent
  have child := departed.child
  cases move <;> simp_all

theorem parentStep_clogs {line : List Char}
    (taken : parentStep index line serverQ client =
      some (after, moved, events)) :
    moved.departed ∧ moved.full ↔ client.parentLeaves ∧ client.full := by
  obtain ⟨pid, linked, queue, parent, child⟩ := client
  cases parent with
  | killing =>
      cases taken
      cases child <;>
        simp [Client.departed, Client.parentLeaves, Client.full]
  | exited => simp [parentStep] at taken
  | _ =>
      have stays : moved.parent ≠ .exited := by
        cases parentStep_move taken <;> simp_all
      simp only [Client.parentLeaves, false_and, iff_false]
      exact fun clogged => stays clogged.1.parent

theorem childStep_clogs
    (taken : childStep index serverQ client = some (after, moved, events)) :
    moved.departed ∧ moved.full ↔ client.childLeaves ∧ client.full := by
  obtain ⟨pid, linked, queue, parent, child⟩ := client
  cases child with
  | notForked => simp [childStep] at taken
  | receiving =>
      have stays : moved.child = .receiving := by
        simp only [childStep, Option.map_eq_some_iff, Prod.mk.injEq] at taken
        obtain ⟨_, _, _, rfl, _⟩ := taken
        rfl
      simp only [Client.childLeaves, false_and, iff_false]
      intro clogged
      have gone := clogged.1.child
      simp [stays] at gone
  | unlinking =>
      cases taken
      cases parent <;>
        simp [Client.departed, Client.childLeaves, Client.full]
  | exited => simp [childStep] at taken

theorem interruptParent_stays
    (taken : interruptParent serverQ client = some (after, moved, events)) :
    ¬ moved.departed := by
  intro departed
  have parent := departed.parent
  unfold interruptParent at taken
  split at taken
  case h_4 =>
    cases taken
    cases parent
  all_goals simp at taken

theorem interruptChild_stays
    (taken : interruptChild serverQ client = some (after, moved, events)) :
    ¬ moved.departed := by
  intro departed
  have child := departed.child
  unfold interruptChild at taken
  split at taken
  case h_1 =>
    cases taken
    simp at child
  case h_2 => simp at taken

end Client

/-- The handler unlinks the queue before its process exits. -/
def State.Unlinks (state : State) : Prop :=
  ∀ client ∈ state.clients,
    client.parent = .killing ∨ client.parent = .exited → client.linked = false

section Steps

variable {state next : State} {events : List Event}

theorem ClientMove.unlinks {index : Nat} {serverQ after : List ChatMessage}
    {client moved : Client}
    (move : ClientMove index serverQ client after moved events)
    (before : client.parent = .killing ∨ client.parent = .exited →
      client.linked = false) :
    moved.parent = .killing ∨ moved.parent = .exited →
      moved.linked = false := by
  cases move <;> simp_all

theorem Move.unlinks (move : Move state next events)
    (unlinks : state.Unlinks) : next.Unlinks := by
  have enqueued : ∀ {clientQ : Nat} {client : Client} {msg : ChatMessage},
      state.clients[clientQ]? = some client →
      ∀ other ∈ state.clients.set clientQ (client.enqueue msg),
        other.parent = .killing ∨ other.parent = .exited →
          other.linked = false := by
    intro clientQ client msg found other membership
    rcases List.mem_or_eq_of_mem_set membership with old | rfl
    · exact unlinks other old
    · exact unlinks client (List.mem_of_getElem? found)
  cases move with
  | start fresh =>
      intro client membership
      rcases List.mem_append.mp membership with old | new
      · exact unlinks client old
      · rw [List.mem_singleton.mp new]
        simp [Client.start]
  | server moved =>
      cases moved with
      | reply here found room => exact enqueued found
      | forward here active target found room => exact enqueued found
      | _ => exact unlinks
  | client found moved =>
      intro client membership
      rcases List.mem_or_eq_of_mem_set membership with old | rfl
      · exact unlinks client old
      · exact moved.unlinks (unlinks _ (List.mem_of_getElem? found))

/-- Only the client that moves can become the reason. -/
theorem doomed_client_iff (sound : ¬ state.Doomed) {index : Nat}
    {client after : Client} (serverQ : List ChatMessage)
    (found : state.clients[index]? = some client) :
    ({ state with serverQ, clients := state.clients.set index after } :
      State).Doomed ↔ state.Owes index ∧ after.departed ∧ after.full := by
  constructor
  · rintro ⟨clientQ, other, owes, there, clogged⟩
    rcases getElem?_set_cases there with ⟨rfl, rfl⟩ | ⟨_, same⟩
    · exact ⟨owes, clogged⟩
    · exact absurd ⟨clientQ, other, owes, same, clogged⟩ sound
  · rintro ⟨owes, clogged⟩
    obtain ⟨inside, _⟩ := List.getElem?_eq_some_iff.mp found
    exact ⟨index, after, owes, List.getElem?_set_self inside, clogged⟩

/-- Once it has a message, the server takes on no new debt that is bad. -/
theorem ServerMove.sound (move : ServerMove state next events)
    (registered : state.WellRegistered) (unlinks : state.Unlinks)
    (sound : ¬ state.Doomed) (busy : state.point ≠ .receiving) :
    ¬ next.Doomed := by
  rintro ⟨clientQ, client, owes, there, clogged⟩
  cases move with
  | receive here queued => exact busy here
  | register here isInit room opened =>
      cases owes
      obtain ⟨same, found, linked, _⟩ := mqOpen_eq_some opened
      rw [found] at there
      cases there
      have unlinked := unlinks client (List.mem_of_getElem? found)
        (.inr clogged.1.parent)
      simp [unlinked] at linked
  | dismiss here => exact owes
  | broadcast here isText =>
      obtain ⟨i, active, _, target⟩ := owes
      refine sound ⟨clientQ, client, ?_, there, clogged⟩
      simp only [State.Owes, here]
      exact ⟨isText, i, active, target⟩
  | reply here found room => exact owes
  | @forward msg first other receiver here _ target found room =>
      obtain ⟨i, active, later, targetLater⟩ := owes
      have different : clientQ ≠ other := by
        rintro rfl
        have same := registered.registry.distinct first i clientQ
          (Registry.queue_of_target target).1
          (Registry.queue_of_target targetLater).1
        omega
      rcases getElem?_set_cases there with ⟨same, _⟩ | ⟨_, before⟩
      · exact different same
      · refine sound ⟨clientQ, client, ?_, before, clogged⟩
        simp only [State.Owes, here]
        exact ⟨i, active, Nat.le_of_succ_le later, targetLater⟩
  | skip here =>
      obtain ⟨i, active, later, target⟩ := owes
      refine sound ⟨clientQ, client, ?_, there, clogged⟩
      simp only [State.Owes, here]
      exact ⟨i, active, Nat.le_of_succ_le later, target⟩
  | finish here => exact owes

theorem ServerMove.doomed_iff (move : ServerMove state next events)
    (registered : state.WellRegistered) (unlinks : state.Unlinks)
    (sound : ¬ state.Doomed) :
    next.Doomed ↔ ¬ Considerate state .server := by
  by_cases busy : state.point = .receiving
  · cases move with
    | receive here queued =>
        simp only [Considerate, State.upcoming, here, queued, List.head?_cons,
          Option.mem_some, forall_eq']
        constructor
        · rintro ⟨clientQ, client, ⟨isText, i, active, target⟩, found, clogged⟩
            considerate
          exact considerate isText i active clientQ target client found clogged
        · intro inconsiderate
          push Not at inconsiderate
          obtain ⟨isText, i, active, clientQ, target, client, found, clogged⟩ :=
            inconsiderate
          exact ⟨clientQ, client, ⟨isText, i, active, target⟩, found, clogged⟩
    | _ => simp_all
  · have considerate : Considerate state .server := by
      unfold Considerate State.upcoming
      split <;> simp_all
    have fine := move.sound registered unlinks sound busy
    simp [considerate, fine]

/-- Exactly the inconsiderate steps lead into the trap. -/
theorem step_doomed_iff {action : Action} (registered : state.WellRegistered)
    (unlinks : state.Unlinks) (sound : ¬ state.Doomed)
    (taken : step state action = some (next, events)) :
    next.Doomed ↔ ¬ Considerate state action := by
  cases action with
  | start pid =>
      simp only [step] at taken
      split at taken
      case isTrue => simp at taken
      case isFalse =>
        cases taken
        simp only [Considerate, not_true_eq_false, iff_false]
        rintro ⟨clientQ, client, owes, there, clogged⟩
        rcases getElem?_append_cases there with old | ⟨_, rfl⟩
        · exact sound ⟨clientQ, client, owes, old, clogged⟩
        · exact clogged.1
  | server => exact (serverStep_move taken).doomed_iff registered unlinks sound
  | parent index line =>
      obtain ⟨client, serverQ, after, found, moved, rfl⟩ :=
        State.moveClient_eq_some taken
      rw [doomed_client_iff sound serverQ found, parentStep_clogs moved]
      simp only [Considerate, found, Option.mem_some, forall_eq']
      tauto
  | child index =>
      obtain ⟨client, serverQ, after, found, moved, rfl⟩ :=
        State.moveClient_eq_some taken
      rw [doomed_client_iff sound serverQ found, childStep_clogs moved]
      simp only [Considerate, found, Option.mem_some, forall_eq']
      tauto
  | interruptParent index =>
      obtain ⟨client, serverQ, after, found, moved, rfl⟩ :=
        State.moveClient_eq_some taken
      rw [doomed_client_iff sound serverQ found]
      simp [Considerate, interruptParent_stays moved]
  | interruptChild index =>
      obtain ⟨client, serverQ, after, found, moved, rfl⟩ :=
        State.moveClient_eq_some taken
      rw [doomed_client_iff sound serverQ found]
      simp [Considerate, interruptChild_stays moved]

/-- There is no way out: the server keeps the debt, the queue stays full. -/
theorem Move.doomed (move : Move state next events) (doomed : state.Doomed) :
    next.Doomed := by
  obtain ⟨clientQ, client, owes, found, departed, full⟩ := doomed
  cases move with
  | start fresh =>
      obtain ⟨inside, _⟩ := List.getElem?_eq_some_iff.mp found
      exact ⟨clientQ, client, owes,
        (List.getElem?_append_left inside).trans found, departed, full⟩
  | @client index mover after serverQ _ there moved =>
      have other : index ≠ clientQ := by
        rintro rfl
        rw [found] at there
        cases there
        exact moved.not_departed departed
      exact ⟨clientQ, client, owes,
        (List.getElem?_set_ne other).trans found, departed, full⟩
  | server moved =>
      cases moved with
      | receive here => simp [State.Owes, here] at owes
      | register here isInit => simp [State.Owes, here, isInit] at owes
      | dismiss here notText => simp [State.Owes, here, notText] at owes
      | broadcast here isText =>
          simp only [State.Owes, here] at owes
          obtain ⟨_, i, active, target⟩ := owes
          exact ⟨clientQ, client, ⟨i, active, Nat.zero_le i, target⟩, found,
            departed, full⟩
      | reply here there room =>
          simp only [State.Owes, here] at owes
          subst owes
          rw [found] at there
          cases there
          exact absurd full (Nat.not_le_of_lt room)
      | @forward msg first other receiver here active target there room =>
          simp only [State.Owes, here] at owes
          obtain ⟨i, activeLater, later, targetLater⟩ := owes
          have different : other ≠ clientQ := by
            rintro rfl
            rw [found] at there
            cases there
            exact absurd full (Nat.not_le_of_lt room)
          have passed : first ≠ i := by
            rintro rfl
            rw [target] at targetLater
            cases targetLater
            exact different rfl
          exact ⟨clientQ, client,
            ⟨i, activeLater, Nat.lt_of_le_of_ne later passed, targetLater⟩,
            (List.getElem?_set_ne different).trans found, departed, full⟩
      | @skip msg first here active target =>
          simp only [State.Owes, here] at owes
          obtain ⟨i, activeLater, later, targetLater⟩ := owes
          have passed : first ≠ i := by
            rintro rfl
            rw [target] at targetLater
            cases targetLater
          exact ⟨clientQ, client,
            ⟨i, activeLater, Nat.lt_of_le_of_ne later passed, targetLater⟩,
            found, departed, full⟩
      | finish here past =>
          simp only [State.Owes, here] at owes
          obtain ⟨i, active, later, _⟩ := owes
          exact absurd (Nat.lt_of_le_of_lt later active) past

end Steps

/-- From then on the server never gets back to `mq_receive`. -/
theorem State.Doomed.never_receives {state later : State}
    {trace : List Event} (doomed : state.Doomed)
    (run : system.Run state trace later) : later.point ≠ .receiving := by
  have still : later.Doomed := run.invariant State.Doomed doomed
    fun trapped _ taken => (step_move taken).doomed trapped
  intro receiving
  obtain ⟨clientQ, client, owes, _⟩ := still
  simp [State.Owes, receiving] at owes

section Runs

variable {trace : List Event} {state : State}

theorem run_unlinks {allowed : State → Action → Prop}
    (run : system.RunWithin allowed initial trace state) : state.Unlinks :=
  run.invariant State.Unlinks (by simp [State.Unlinks, initial])
    fun unlinks _ taken => (step_move taken).unlinks unlinks

theorem considerate_run_sound
    (run : system.RunWithin Considerate initial trace state) :
    ¬ state.Doomed := by
  have held : state.WellRegistered ∧ state.Unlinks ∧ ¬ state.Doomed := by
    refine run.invariant (fun reached =>
      reached.WellRegistered ∧ reached.Unlinks ∧ ¬ reached.Doomed) ?_ ?_
    · refine ⟨initial_wellRegistered, by simp [State.Unlinks, initial], ?_⟩
      rintro ⟨clientQ, client, owes, _⟩
      exact owes
    · rintro reached action next events ⟨registered, unlinks, sound⟩
        considerate taken
      have move := step_move taken
      refine ⟨move.wellRegistered registered, move.unlinks unlinks, ?_⟩
      rw [step_doomed_iff registered unlinks sound taken]
      exact not_not_intro considerate
  exact held.2.2

/-- As long as every step is considerate no departed client stops the
server; the first step that is not is one the server never recovers from. -/
theorem departures_harmless_iff
    (run : system.RunWithin Considerate initial trace state) :
    ¬ state.Stranded ∧ ∀ action next events,
      step state action = some (next, events) →
        (next.Doomed ↔ ¬ Considerate state action) ∧
        (¬ Considerate state action → ∀ {future : List Event} {later : State},
          system.Run next future later → later.point ≠ .receiving) := by
  have sound := considerate_run_sound run
  refine ⟨fun stranded => sound stranded.doomed, ?_⟩
  intro action next events taken
  have trapped :=
    step_doomed_iff (run_wellRegistered run) (run_unlinks run) sound taken
  exact ⟨trapped, fun inconsiderate _ _ =>
    (trapped.mpr inconsiderate).never_receives⟩

end Runs

/-- Client `index` is interrupted and its two processes exit. -/
def departing (index : Nat) : List Action :=
  [.interruptParent index, .parent index [], .parent index [], .child index]

/-- Of two clients one leaves; the other sends as many texts as fit into the
queue that is left behind. -/
def departureSchedule : List Action :=
  twoClients ++ departing 0 ++
    (List.replicate MAX_MSG (speaking 1 ++ List.replicate 3 .server)).flatten

/-- The state it leads to, with the trace. -/
def filled : State × List Event :=
  (system.execute Considerate initial departureSchedule).get
    (by decide +kernel)

theorem departures_harmless_iff_example :
    ¬ filled.1.Stranded ∧ ∀ action next events,
      step filled.1 action = some (next, events) →
        (next.Doomed ↔ ¬ Considerate filled.1 action) ∧
        (¬ Considerate filled.1 action →
          ∀ {future : List Event} {later : State},
            system.Run next future later → later.point ≠ .receiving) :=
  departures_harmless_iff (Machine.execute_get_runWithin _)

/-- One more text, taken up to the first `mq_send` of its broadcast. -/
def overfilled : State × List Event :=
  (system.execute (fun _ _ => True) initial
    (departureSchedule ++ speaking 1)).get (by decide +kernel)

/-- The server waits for the client that left. -/
theorem server_stranded :
    ∃ (trace : List Event) (state : State),
      system.Run initial trace state ∧ state.Stranded ∧
        serverStep state = none := by
  have run : system.Run initial overfilled.2 overfilled.1 :=
    Machine.execute_get_runWithin _
  refine ⟨_, _, run, by decide +kernel, ?_⟩
  rw [← Option.isNone_iff_eq_none]
  decide +kernel

end SysOp.Lab4
