import SysOp.Lab4.Moves

/-!
# Who is registered

A client sends one `MSG_INIT`, under a name no other client has, so it is
registered at most once, and never again once its queue is in the registry.
-/

namespace SysOp.Lab4

open SysOp.Foundation

/-- The message the server has taken but not yet looked at. -/
def ServerPoint.taken : ServerPoint → List ChatMessage
  | .dispatching msg => [msg]
  | _ => []

/-- Messages to the server that have had no effect yet. -/
def State.inFlight (state : State) : List ChatMessage :=
  state.point.taken ++ state.serverQ

/-- The messages asking to register the queue `name`. -/
def initsOf (name : QueueName) (messages : List ChatMessage) : Nat :=
  messages.countP fun msg =>
    decide (msg.type = .msgInit ∧ msg.queueName = name)

/-- Whether `MSG_INIT` is still to be sent. -/
def Client.unsent (client : Client) : Nat :=
  match client.parent with
  | .opening | .sendingInit => 1
  | _ => 0

/-- What one client may still ask for. -/
def State.requests (state : State) (client : Client) : Nat :=
  initsOf (clientQName client.pid) state.inFlight + client.unsent

/-- The valid descriptors are those of the active clients. -/
structure Registry.Compact (registry : Registry) : Prop where
  active_le : registry.activeClients ≤ MAX_CLIENTS
  queue_iff : ∀ i, (registry.queue i).isSome ↔ i < registry.activeClients

structure Registry.WellFormed (registry : Registry) : Prop where
  active_le : registry.activeClients ≤ MAX_CLIENTS
  queue_iff : ∀ i, (registry.queue i).isSome ↔ i < registry.activeClients
  distinct : ∀ i j clientQ, registry.queue i = some clientQ →
    registry.queue j = some clientQ → i = j

structure State.WellRegistered (state : State) : Prop where
  registry : state.registry.WellFormed
  pids : (state.clients.map Client.pid).Nodup
  named : ∀ msg ∈ state.inFlight, msg.type = .msgInit →
    ∃ client ∈ state.clients, msg.queueName = clientQName client.pid
  once : ∀ (index : Nat) (client : Client),
    state.clients[index]? = some client → state.requests client ≤ 1
  known : ∀ i clientQ, state.registry.queue i = some clientQ →
    ∃ client, state.clients[clientQ]? = some client ∧
      state.requests client = 0

@[simp]
theorem initsOf_append (name : QueueName) (earlier later : List ChatMessage) :
    initsOf name (earlier ++ later) =
      initsOf name earlier + initsOf name later :=
  List.countP_append

theorem initsOf_eq_zero {name : QueueName} {messages : List ChatMessage}
    (others : ∀ msg ∈ messages, msg.type = .msgInit → msg.queueName ≠ name) :
    initsOf name messages = 0 := by
  rw [initsOf, List.countP_eq_zero]
  intro msg membership
  simpa using others msg membership

namespace Registry

variable {registry : Registry}

theorem WellFormed.vacant (formed : registry.WellFormed) :
    registry.queue registry.activeClients = none := by
  have empty := formed.queue_iff registry.activeClients
  simpa using empty

theorem queue_register (room : registry.activeClients < MAX_CLIENTS)
    (clientQ i : Nat) :
    (registry.register clientQ).queue i =
      if i = registry.activeClients then some clientQ else registry.queue i := by
  unfold queue register
  by_cases new : i = registry.activeClients
  · subst new
    simp [room]
  · rw [if_neg new, Vector.getElem?_setIfInBounds_ne (Ne.symm new)]

theorem Compact.register (compact : registry.Compact)
    (room : registry.activeClients < MAX_CLIENTS) (clientQ : Nat) :
    (registry.register clientQ).Compact where
  active_le := room
  queue_iff i := by
    have before := compact.queue_iff i
    rw [queue_register room]
    by_cases new : i = registry.activeClients
    · simp [new, Registry.register]
    · rw [if_neg new, before]
      simp only [Registry.register]
      omega

theorem WellFormed.compact (formed : registry.WellFormed) : registry.Compact :=
  ⟨formed.active_le, formed.queue_iff⟩

theorem WellFormed.register (formed : registry.WellFormed)
    (room : registry.activeClients < MAX_CLIENTS) {clientQ : Nat}
    (unregistered : ∀ i, registry.queue i ≠ some clientQ) :
    (registry.register clientQ).WellFormed where
  active_le := room
  queue_iff := (formed.compact.register room clientQ).queue_iff
  distinct i j queue first second := by
    rw [queue_register room] at first second
    split at first <;> split at second
    case isTrue.isTrue newFirst newSecond => rw [newFirst, newSecond]
    case isTrue.isFalse =>
      cases first
      exact absurd second (unregistered j)
    case isFalse.isTrue =>
      cases second
      exact absurd first (unregistered i)
    case isFalse.isFalse => exact formed.distinct i j queue first second

theorem queue_of_target {msg : ChatMessage} {i clientQ : Nat}
    (target : registry.target msg i = some clientQ) :
    registry.queue i = some clientQ ∧ (i : Int) ≠ msg.clientId := by
  unfold Registry.target at target
  split at target
  case isTrue other => exact ⟨target, other⟩
  case isFalse => simp at target

end Registry

/-- `mq_open` finds a client that has created its queue and not unlinked
it, under its own name. -/
theorem mqOpen_eq_some {clients : List Client} {name : QueueName}
    {clientQ : Nat} (opened : mqOpen clients name = some clientQ) :
    ∃ client, clients[clientQ]? = some client ∧ client.linked = true ∧
      clientQName client.pid = name := by
  rw [mqOpen, List.findIdx?_eq_some_iff_getElem] at opened
  obtain ⟨inside, found, _⟩ := opened
  simp only [Bool.and_eq_true, decide_eq_true_eq] at found
  exact ⟨_, List.getElem?_eq_getElem inside, found⟩

section Moves

variable {index : Nat} {serverQ after : List ChatMessage}
  {client moved : Client} {events : List Event}

theorem ClientMove.pid
    (move : ClientMove index serverQ client after moved events) :
    moved.pid = client.pid := by
  cases move <;> rfl

/-- What a client sends, at most the one `MSG_INIT` it has not sent yet. -/
theorem ClientMove.sends
    (move : ClientMove index serverQ client after moved events) :
    ∃ sent, after = serverQ ++ sent ∧
      initsOf (clientQName client.pid) sent + moved.unsent ≤ client.unsent ∧
      ∀ msg ∈ sent, msg.type = .msgInit →
        msg.queueName = clientQName client.pid := by
  cases move with
  | sendInit here room =>
      refine ⟨[client.initMsg], rfl, ?_, ?_⟩
      · simp [initsOf, Client.initMsg, Client.unsent, here]
      · simp [Client.initMsg]
  | send here room =>
      refine ⟨_, rfl, ?_, ?_⟩
      · simp [initsOf, Client.outMsg, Client.unsent]
      · simp [Client.outMsg]
  | create here | assigned here _ _ | refused here _ _ | fork here
  | readEmpty here | read here | unlink here | kill here =>
      refine ⟨[], by simp, ?_, by simp⟩
      simp [initsOf, Client.unsent, here]
  | receive | childUnlink | interruptChild =>
      exact ⟨[], by simp, by simp [initsOf, Client.unsent], by simp⟩
  | interruptParent =>
      exact ⟨[], by simp, by simp [initsOf, Client.unsent], by simp⟩

end Moves

section Preserved

variable {state next : State}

theorem State.WellRegistered.pid_inj (registered : state.WellRegistered)
    {first second : Nat} {client other : Client}
    (found : state.clients[first]? = some client)
    (foundOther : state.clients[second]? = some other)
    (same : client.pid = other.pid) : first = second := by
  have inside : first < (state.clients.map Client.pid).length := by
    obtain ⟨inside, _⟩ := List.getElem?_eq_some_iff.mp found
    simpa using inside
  refine (List.getElem?_inj inside registered.pids).mp ?_
  simp [found, foundOther, same]

/-- Nobody is registered, and nobody may ask for more than before. -/
theorem State.WellRegistered.frame (registered : state.WellRegistered)
    (sameRegistry : next.registry = state.registry)
    (samePids : next.clients.map Client.pid = state.clients.map Client.pid)
    (named : ∀ msg ∈ next.inFlight, msg.type = .msgInit →
      ∃ client ∈ state.clients, msg.queueName = clientQName client.pid)
    (fewer : ∀ (index : Nat) (client after : Client),
      state.clients[index]? = some client →
      next.clients[index]? = some after →
      next.requests after ≤ state.requests client) :
    next.WellRegistered := by
  have position : ∀ (index : Nat),
      (next.clients[index]?).map Client.pid =
        (state.clients[index]?).map Client.pid := by
    intro index
    rw [← List.getElem?_map, ← List.getElem?_map, samePids]
  refine ⟨sameRegistry ▸ registered.registry, samePids ▸ registered.pids,
    ?_, ?_, ?_⟩
  · intro msg membership isInit
    obtain ⟨client, present, name⟩ := named msg membership isInit
    have listed : client.pid ∈ next.clients.map Client.pid := by
      rw [samePids]
      exact List.mem_map_of_mem present
    obtain ⟨after, presentAfter, same⟩ := List.mem_map.mp listed
    exact ⟨after, presentAfter, by rw [same]; exact name⟩
  · intro index after found
    have same := position index
    rw [found] at same
    obtain ⟨client, before, _⟩ := Option.map_eq_some_iff.mp same.symm
    exact (fewer index client after before found).trans
      (registered.once index client before)
  · intro i clientQ queue
    rw [sameRegistry] at queue
    obtain ⟨client, before, none⟩ := registered.known i clientQ queue
    have same := position clientQ
    rw [before] at same
    obtain ⟨after, found, _⟩ := Option.map_eq_some_iff.mp same
    refine ⟨after, found, ?_⟩
    have bound := fewer clientQ client after before found
    omega

theorem State.WellRegistered.quiet (registered : state.WellRegistered)
    (sameRegistry : next.registry = state.registry)
    (sameClients : next.clients = state.clients)
    (fewer : List.Sublist next.inFlight state.inFlight) :
    next.WellRegistered := by
  refine registered.frame sameRegistry (by rw [sameClients]) ?_ ?_
  · intro msg membership
    exact registered.named msg (fewer.subset membership)
  · intro index client after before found
    rw [sameClients, before] at found
    cases found
    exact Nat.add_le_add_right fewer.countP_le _

/-- A message is put into a private queue. -/
theorem State.WellRegistered.placed (registered : state.WellRegistered)
    {clientQ : Nat} {client : Client} {msg : ChatMessage}
    (found : state.clients[clientQ]? = some client)
    (sameRegistry : next.registry = state.registry)
    (enqueued : next.clients = state.clients.set clientQ (client.enqueue msg))
    (fewer : List.Sublist next.inFlight state.inFlight) :
    next.WellRegistered := by
  refine registered.frame sameRegistry ?_ ?_ ?_
  · rw [enqueued]
    exact map_set_of_eq Client.pid found rfl
  · intro msg membership
    exact registered.named msg (fewer.subset membership)
  · intro index before after there foundAfter
    rw [enqueued] at foundAfter
    rcases getElem?_set_cases foundAfter with ⟨rfl, rfl⟩ | ⟨_, same⟩
    · rw [found] at there
      cases there
      exact Nat.add_le_add_right fewer.countP_le _
    · rw [there] at same
      cases same
      exact Nat.add_le_add_right fewer.countP_le _

/-- The client whose `MSG_INIT` opens its queue is not registered yet. -/
theorem State.WellRegistered.unregistered (registered : state.WellRegistered)
    {msg : ChatMessage} {clientQ : Nat}
    (here : state.point = .dispatching msg) (isInit : msg.type = .msgInit)
    (opened : mqOpen state.clients msg.queueName = some clientQ) (i : Nat) :
    state.registry.queue i ≠ some clientQ := by
  intro queue
  obtain ⟨client, found, _, name⟩ := mqOpen_eq_some opened
  obtain ⟨same, foundSame, none⟩ := registered.known i clientQ queue
  rw [found] at foundSame
  cases foundSame
  simp [State.requests, State.inFlight, here, ServerPoint.taken, initsOf,
    isInit, name] at none

theorem State.WellRegistered.register (registered : state.WellRegistered)
    {msg : ChatMessage} {clientQ : Nat}
    (here : state.point = .dispatching msg) (isInit : msg.type = .msgInit)
    (room : state.registry.activeClients < MAX_CLIENTS)
    (opened : mqOpen state.clients msg.queueName = some clientQ) :
    ({ state with
        registry := state.registry.register clientQ
        point := .replying clientQ state.registry.activeClients } :
      State).WellRegistered := by
  have fewer : ∀ client : Client,
      initsOf (clientQName client.pid) [msg] + (({ state with
        registry := state.registry.register clientQ
        point := .replying clientQ state.registry.activeClients } :
          State).requests client) = state.requests client := by
    intro client
    simp only [State.requests, State.inFlight, here, ServerPoint.taken,
      initsOf_append, List.nil_append]
    omega
  refine ⟨registered.registry.register room
    (registered.unregistered here isInit opened), registered.pids, ?_, ?_, ?_⟩
  · intro other membership
    apply registered.named other
    simp only [State.inFlight, ServerPoint.taken, List.nil_append] at membership
    exact List.mem_append_right _ membership
  · intro index client found
    have before := registered.once index client found
    have sum := fewer client
    omega
  · intro i other queue
    rw [Registry.queue_register room] at queue
    split at queue
    case isTrue =>
      cases queue
      obtain ⟨client, found, _, name⟩ := mqOpen_eq_some opened
      have own : initsOf (clientQName client.pid) [msg] = 1 := by
        simp [initsOf, isInit, name]
      have before := registered.once clientQ client found
      have sum := fewer client
      exact ⟨client, found, by omega⟩
    case isFalse =>
      obtain ⟨client, found, none⟩ := registered.known i other queue
      have sum := fewer client
      exact ⟨client, found, by omega⟩

theorem ServerMove.wellRegistered {events : List Event}
    (move : ServerMove state next events)
    (registered : state.WellRegistered) : next.WellRegistered := by
  cases move with
  | receive here queued =>
      refine registered.quiet rfl rfl ?_
      simp [State.inFlight, here, queued, ServerPoint.taken]
  | register here isInit room opened =>
      exact registered.register here isInit room opened
  | dismiss here | broadcast here =>
      refine registered.quiet rfl rfl ?_
      simp [State.inFlight, here, ServerPoint.taken]
  | reply here found room =>
      refine registered.placed found rfl rfl ?_
      simp [State.inFlight, here, ServerPoint.taken]
  | forward here active target found room =>
      refine registered.placed found rfl rfl ?_
      simp [State.inFlight, here, ServerPoint.taken]
  | skip here | finish here =>
      refine registered.quiet rfl rfl ?_
      simp [State.inFlight, here, ServerPoint.taken]

theorem State.WellRegistered.start (registered : state.WellRegistered)
    {pid : Pid} (fresh : pid ∉ state.clients.map Client.pid) :
    ({ state with clients := state.clients ++ [.start pid] } :
      State).WellRegistered := by
  have nothing : initsOf (clientQName pid) state.inFlight = 0 := by
    apply initsOf_eq_zero
    intro msg membership isInit same
    obtain ⟨client, present, name⟩ := registered.named msg membership isInit
    have pids := clientQName_injective (name.symm.trans same)
    exact fresh (List.mem_map.mpr ⟨client, present, pids⟩)
  refine ⟨registered.registry, ?_, ?_, ?_, ?_⟩
  · have appended := registered.pids.concat fresh
    simpa [Client.start] using appended
  · intro msg membership isInit
    obtain ⟨client, present, name⟩ := registered.named msg membership isInit
    exact ⟨client, List.mem_append_left _ present, name⟩
  · intro index client found
    rcases getElem?_append_cases found with old | ⟨_, rfl⟩
    · exact registered.once index client old
    · show initsOf (clientQName pid) state.inFlight + 1 ≤ 1
      omega
  · intro i clientQ queue
    obtain ⟨client, found, none⟩ := registered.known i clientQ queue
    obtain ⟨inside, _⟩ := List.getElem?_eq_some_iff.mp found
    exact ⟨client, (List.getElem?_append_left inside).trans found, none⟩

theorem State.WellRegistered.client (registered : state.WellRegistered)
    {index : Nat} {client after : Client} {serverQ : List ChatMessage}
    {events : List Event} (found : state.clients[index]? = some client)
    (moved : ClientMove index state.serverQ client serverQ after events) :
    ({ state with serverQ, clients := state.clients.set index after } :
      State).WellRegistered := by
  obtain ⟨sent, rfl, own, names⟩ := moved.sends
  refine registered.frame rfl (map_set_of_eq Client.pid found moved.pid) ?_ ?_
  · intro msg membership isInit
    simp only [State.inFlight, ← List.append_assoc] at membership
    rcases List.mem_append.mp membership with old | new
    · exact registered.named msg old isInit
    · exact ⟨client, List.mem_of_getElem? found, names msg new isInit⟩
  · intro other before later there foundLater
    simp only [State.requests, State.inFlight, initsOf_append]
    rcases getElem?_set_cases foundLater with ⟨rfl, rfl⟩ | ⟨different, same⟩
    · rw [found] at there
      cases there
      rw [moved.pid]
      omega
    · rw [there] at same
      cases same
      have nothing : initsOf (clientQName before.pid) sent = 0 := by
        apply initsOf_eq_zero
        intro msg membership isInit name
        rw [names msg membership isInit] at name
        exact different (registered.pid_inj there found
          (clientQName_injective name.symm))
      omega

theorem Move.wellRegistered {events : List Event}
    (move : Move state next events)
    (registered : state.WellRegistered) : next.WellRegistered := by
  cases move with
  | start fresh => exact registered.start fresh
  | server moved => exact moved.wellRegistered registered
  | client found moved => exact registered.client found moved

end Preserved

theorem initial_queue (i : Nat) : initial.registry.queue i = none := by
  simp only [initial, Registry.initial, Registry.queue,
    Vector.getElem?_replicate]
  split <;> rfl

theorem initial_wellRegistered : initial.WellRegistered := by
  refine ⟨⟨?_, ?_, ?_⟩, ?_, ?_, ?_, ?_⟩
  · exact Nat.zero_le _
  · intro i
    rw [initial_queue]
    simp [initial, Registry.initial]
  · intro i j clientQ first
    rw [initial_queue] at first
    cases first
  · exact List.nodup_nil
  · simp [State.inFlight, initial, ServerPoint.taken]
  · simp [initial]
  · intro i clientQ first
    rw [initial_queue] at first
    cases first

theorem run_wellRegistered {allowed : State → Action → Prop}
    {trace : List Event} {state : State}
    (run : system.RunWithin allowed initial trace state) :
    state.WellRegistered :=
  run.invariant State.WellRegistered initial_wellRegistered
    fun registered _ taken => (step_move taken).wellRegistered registered

end SysOp.Lab4
