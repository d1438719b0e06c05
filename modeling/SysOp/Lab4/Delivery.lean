import SysOp.Lab4.Registration

/-!
# What the server owes each client

From its registration on a client is owed its id and every text consumed
that is not its own.  What has been placed in its queue, followed by what the
message the server is busy with still owes it, is always exactly that.
-/

namespace SysOp.Lab4

open SysOp.Foundation

section History

/-- The messages the server has consumed. -/
def consumed (trace : List Event) : List ChatMessage :=
  trace.filterMap fun
    | .consumed msg => some msg
    | _ => none

/-- The messages placed in the queue of a client. -/
def placed (client : Nat) (trace : List Event) : List ChatMessage :=
  trace.filterMap fun
    | .placed other msg => if other = client then some msg else none
    | _ => none

/-- The messages the processes of a client have received. -/
def received (client : Nat) (trace : List Event) : List ChatMessage :=
  trace.filterMap fun
    | .received other msg => if other = client then some msg else none
    | _ => none

/-- The texts a client has read from its user. -/
def typed (client : Nat) (trace : List Event) : List (List Char) :=
  trace.filterMap fun
    | .typed other text => if other = client then some text else none
    | _ => none

/-- The id a client was registered with and what happened since. -/
def registration (client : Nat) : List Event → Option (Nat × List Event)
  | [] => none
  | .registered newId other :: rest =>
      if other = client then some (newId, rest) else registration client rest
  | _ :: rest => registration client rest

def texts (messages : List ChatMessage) : List ChatMessage :=
  messages.filter fun msg => decide (msg.type = .msgText)

/-- The messages of other senders. -/
def others (newId : Nat) (messages : List ChatMessage) : List ChatMessage :=
  messages.filter fun msg => decide (msg.clientId ≠ newId)

variable (client newId : Nat) (earlier later : List Event)
  (front back : List ChatMessage)

@[simp]
theorem consumed_append :
    consumed (earlier ++ later) = consumed earlier ++ consumed later :=
  List.filterMap_append

@[simp]
theorem placed_append :
    placed client (earlier ++ later) =
      placed client earlier ++ placed client later :=
  List.filterMap_append

@[simp]
theorem received_append :
    received client (earlier ++ later) =
      received client earlier ++ received client later :=
  List.filterMap_append

@[simp]
theorem typed_append :
    typed client (earlier ++ later) =
      typed client earlier ++ typed client later :=
  List.filterMap_append

@[simp]
theorem placed_singleton (other : Nat) (msg : ChatMessage) :
    placed client [.placed other msg] =
      if other = client then [msg] else [] := by
  by_cases same : other = client <;> simp [placed, same]

@[simp]
theorem received_singleton (other : Nat) (msg : ChatMessage) :
    received client [.received other msg] =
      if other = client then [msg] else [] := by
  by_cases same : other = client <;> simp [received, same]

@[simp]
theorem typed_singleton (other : Nat) (text : List Char) :
    typed client [.typed other text] =
      if other = client then [text] else [] := by
  by_cases same : other = client <;> simp [typed, same]

@[simp]
theorem texts_append : texts (front ++ back) = texts front ++ texts back :=
  List.filter_append ..

@[simp]
theorem others_append :
    others newId (front ++ back) = others newId front ++ others newId back :=
  List.filter_append ..

variable {client newId earlier}

theorem registration_append_of_some {since : List Event}
    (registered : registration client earlier = some (newId, since)) :
    registration client (earlier ++ later) = some (newId, since ++ later) := by
  fun_induction registration client earlier with
  | case1 => simp at registered
  | case2 => simp_all [registration]
  | case3 => simp_all [registration]
  | case4 => simp_all [registration]

theorem registration_append_of_none
    (unregistered : registration client earlier = none) :
    registration client (earlier ++ later) = registration client later := by
  fun_induction registration client earlier with
  | case1 => rfl
  | case2 => simp at unregistered
  | case3 => simp_all [registration]
  | case4 => simp_all [registration]

/-- No registration among the later events. -/
theorem registration_append_quiet (quiet : registration client later = none) :
    registration client (earlier ++ later) =
      (registration client earlier).map fun found =>
        (found.1, found.2 ++ later) := by
  cases before : registration client earlier with
  | none => rw [registration_append_of_none later before, quiet, Option.map_none]
  | some found => exact registration_append_of_some later before

variable (newId) in
theorem registration_registered_self
    (unregistered : registration client earlier = none) :
    registration client (earlier ++ [.registered newId client]) =
      some (newId, []) := by
  rw [registration_append_of_none _ unregistered]
  simp [registration]

variable (newId) in
theorem registration_registered_other {clientQ : Nat}
    (different : client ≠ clientQ) :
    registration client (earlier ++ [.registered newId clientQ]) =
      (registration client earlier).map fun found =>
        (found.1, found.2 ++ [.registered newId clientQ]) := by
  apply registration_append_quiet
  simp [registration, Ne.symm different]

theorem registration_suffix {since : List Event}
    (registered : registration client earlier = some (newId, since)) :
    since <:+ earlier := by
  fun_induction registration client earlier with
  | case1 => simp at registered
  | case2 =>
      cases registered
      exact List.suffix_cons _ _
  | case3 _ _ _ _ inductionHypothesis =>
      exact (inductionHypothesis registered).trans (List.suffix_cons _ _)
  | case4 _ _ _ inductionHypothesis =>
      exact (inductionHypothesis registered).trans (List.suffix_cons _ _)

end History

/-- Everything a client registered as `newId` is owed, given what has happened
since its registration. -/
def owed (newId : Nat) (since : List Event) : List ChatMessage :=
  idAssign newId :: others newId (texts (consumed since))

/-- The part of it the server is busy with. -/
def ServerPoint.pending (point : ServerPoint) (client newId : Nat) :
    List ChatMessage :=
  match point with
  | .receiving => []
  | .dispatching msg => others newId (texts [msg])
  | .replying clientQ newId => if clientQ = client then [idAssign newId] else []
  | .broadcasting msg i => if i ≤ newId then others newId (texts [msg]) else []

/-- What holds of the message or the client the server is busy with. -/
def ServerPoint.Sound (registry : Registry) : ServerPoint → Prop
  | .replying clientQ newId => registry.queue newId = some clientQ
  | .broadcasting msg _ => msg.type = .msgText
  | _ => True

def State.queueOf (state : State) (client : Nat) : List ChatMessage :=
  (state.clients[client]?.map Client.queue).getD []

structure Delivered (trace : List Event) (state : State) : Prop where
  recorded : ∀ client newId, state.registry.queue newId = some client ↔
    ∃ since, registration client trace = some (newId, since)
  paid : ∀ client newId since, registration client trace = some (newId, since) →
    placed client trace ++ state.point.pending client newId = owed newId since
  silent : ∀ client, registration client trace = none →
    placed client trace = []
  fifo : ∀ client,
    placed client trace = received client trace ++ state.queueOf client
  sound : state.point.Sound state.registry

section Steps

variable {trace events : List Event} {state next : State}

/-- No id is given to two clients. -/
theorem Delivered.registration_inj (delivered : Delivered trace state)
    {client other newId : Nat} {since before : List Event}
    (first : registration client trace = some (newId, since))
    (second : registration other trace = some (newId, before)) :
    client = other := by
  have queue := (delivered.recorded client newId).mpr ⟨since, first⟩
  rw [(delivered.recorded other newId).mpr ⟨before, second⟩] at queue
  exact (Option.some.inj queue).symm

/-- A step without a registration keeps the books if, for every client, what
it places and leaves pending is what was pending and is newly owed. -/
theorem Delivered.advance (delivered : Delivered trace state)
    (sameRegistry : next.registry = state.registry)
    (quiet : ∀ client, registration client events = none)
    (pays : ∀ client newId, state.registry.queue newId = some client →
      placed client events ++ next.point.pending client newId =
        state.point.pending client newId ++ others newId (texts (consumed events)))
    (silent : ∀ client, (∀ newId, state.registry.queue newId ≠ some client) →
      placed client events = [])
    (fifo : ∀ client, state.queueOf client ++ placed client events =
      received client events ++ next.queueOf client)
    (sound : next.point.Sound next.registry) :
    Delivered (trace ++ events) next where
  recorded client newId := by
    rw [sameRegistry, delivered.recorded client newId]
    simp [registration_append_quiet _ (quiet client)]
  paid client newId since registered := by
    rw [registration_append_quiet _ (quiet client),
      Option.map_eq_some_iff] at registered
    obtain ⟨⟨own, before⟩, found, same⟩ := registered
    obtain ⟨rfl, rfl⟩ := Prod.mk.inj same
    have queue := (delivered.recorded client own).mpr ⟨before, found⟩
    calc
      placed client (trace ++ events) ++ next.point.pending client own =
          placed client trace ++ (placed client events ++
            next.point.pending client own) := by simp
      _ = (placed client trace ++ state.point.pending client own) ++
            others own (texts (consumed events)) := by
          rw [pays client own queue, List.append_assoc]
      _ = owed own (before ++ events) := by
          rw [delivered.paid client own before found]
          simp [owed]
  silent client unregistered := by
    rw [registration_append_quiet _ (quiet client),
      Option.map_eq_none_iff] at unregistered
    rw [placed_append, delivered.silent client unregistered, silent client]
    · rfl
    · intro newId queue
      obtain ⟨since, found⟩ := (delivered.recorded client newId).mp queue
      simp [unregistered] at found
  fifo client := by
    rw [placed_append, delivered.fifo client, List.append_assoc, fifo client,
      received_append, List.append_assoc]
  sound := sound

theorem State.queueOf_eq {index : Nat} {client : Client}
    (found : state.clients[index]? = some client) :
    state.queueOf index = client.queue := by
  simp [State.queueOf, found]

theorem State.queueOf_set {index : Nat} {client : Client}
    (found : state.clients[index]? = some client) (after : Client)
    (registry : Registry) (point : ServerPoint) (serverQ : List ChatMessage)
    (other : Nat) :
    State.queueOf ⟨registry, point, serverQ, state.clients.set index after⟩
        other =
      if other = index then after.queue else state.queueOf other := by
  obtain ⟨inside, _⟩ := List.getElem?_eq_some_iff.mp found
  by_cases same : other = index
  · subst same
    simp [State.queueOf, List.getElem?_set_self inside]
  · rw [if_neg same, State.queueOf, State.queueOf,
      List.getElem?_set_ne (Ne.symm same)]

/-- A message is placed in the queue of a registered client. -/
theorem Delivered.place (delivered : Delivered trace state)
    {clientQ ownId : Nat} {client : Client} {msg : ChatMessage}
    {point : ServerPoint} (found : state.clients[clientQ]? = some client)
    (registered : state.registry.queue ownId = some clientQ)
    (pays : ∀ other newId, state.registry.queue newId = some other →
      (if clientQ = other then [msg] else []) ++ point.pending other newId =
        state.point.pending other newId)
    (sound : point.Sound state.registry) :
    Delivered (trace ++ [.placed clientQ msg])
      { state with
        clients := state.clients.set clientQ (client.enqueue msg)
        point } := by
  refine delivered.advance rfl (fun _ => rfl) ?_ ?_ ?_ sound
  · intro other newId queue
    rw [placed_singleton, pays other newId queue]
    simp [consumed, texts, others]
  · intro other unregistered
    have different : clientQ ≠ other := by
      rintro rfl
      exact unregistered ownId registered
    simp [different]
  · intro other
    rw [State.queueOf_set found]
    by_cases same : clientQ = other
    · subst same
      simp [received, State.queueOf_eq found, Client.enqueue]
    · simp [received, same, Ne.symm same]

theorem Delivered.receive (delivered : Delivered trace state)
    {msg : ChatMessage} (rest : List ChatMessage)
    (here : state.point = .receiving) :
    Delivered (trace ++ [.consumed msg])
      { state with serverQ := rest, point := .dispatching msg } := by
  refine delivered.advance rfl (fun _ => rfl) ?_ (fun _ _ => rfl) ?_ trivial
  · intro client newId _
    simp [placed, consumed, ServerPoint.pending, here]
  · intro client
    simp [placed, received, State.queueOf]

/-- A local step of the server, with nothing placed. -/
theorem Delivered.turn (delivered : Delivered trace state)
    {point : ServerPoint}
    (same : ∀ client newId, state.registry.queue newId = some client →
      point.pending client newId = state.point.pending client newId)
    (sound : point.Sound state.registry) :
    Delivered (trace ++ []) { state with point } := by
  refine delivered.advance rfl (fun _ => rfl) ?_ (fun _ _ => rfl) ?_ sound
  · intro client newId queue
    simpa [placed, consumed, texts, others] using same client newId queue
  · intro client
    simp [placed, received, State.queueOf]

theorem Delivered.unrecorded (delivered : Delivered trace state)
    (registered : state.WellRegistered) {msg : ChatMessage} {clientQ : Nat}
    (here : state.point = .dispatching msg) (isInit : msg.type = .msgInit)
    (opened : mqOpen state.clients msg.queueName = some clientQ) :
    registration clientQ trace = none := by
  cases found : registration clientQ trace with
  | none => rfl
  | some entry =>
      have queue := (delivered.recorded clientQ entry.1).mpr ⟨entry.2, found⟩
      exact absurd queue (registered.unregistered here isInit opened entry.1)

theorem Delivered.register (delivered : Delivered trace state)
    (registered : state.WellRegistered) {msg : ChatMessage} {clientQ : Nat}
    (here : state.point = .dispatching msg) (isInit : msg.type = .msgInit)
    (room : state.registry.activeClients < MAX_CLIENTS)
    (opened : mqOpen state.clients msg.queueName = some clientQ) :
    Delivered (trace ++ [.registered state.registry.activeClients clientQ])
      { state with
        registry := state.registry.register clientQ
        point := .replying clientQ state.registry.activeClients } := by
  have unrecorded := delivered.unrecorded registered here isInit opened
  have vacant := registered.registry.vacant
  have own := registration_registered_self state.registry.activeClients
    unrecorded
  refine ⟨?_, ?_, ?_, ?_, ?_⟩
  · intro client newId
    rw [Registry.queue_register room]
    by_cases same : client = clientQ
    · subst same
      have before := registered.unregistered here isInit opened newId
      by_cases new : newId = state.registry.activeClients
      · simp [own, new]
      · simp [own, new, Ne.symm new, before]
    · have before := delivered.recorded client newId
      rw [registration_registered_other _ same]
      by_cases new : newId = state.registry.activeClients
      · subst new
        rw [vacant] at before
        simpa [Ne.symm same] using before
      · simp [new, before]
  · intro client newId since found
    by_cases same : client = clientQ
    · subst same
      rw [own] at found
      cases found
      rw [placed_append, delivered.silent client unrecorded]
      simp [placed, ServerPoint.pending, owed, consumed, texts, others]
    · rw [registration_registered_other _ same, Option.map_eq_some_iff] at found
      obtain ⟨⟨before, events⟩, foundBefore, equal⟩ := found
      obtain ⟨rfl, rfl⟩ := Prod.mk.inj equal
      have paid := delivered.paid client before events foundBefore
      simp only [ServerPoint.pending, here] at paid
      simpa [placed, ServerPoint.pending, owed, consumed, texts, others,
        Ne.symm same, isInit] using paid
  · intro client unregistered
    have different : client ≠ clientQ := by
      rintro rfl
      simp [own] at unregistered
    rw [registration_registered_other _ different,
      Option.map_eq_none_iff] at unregistered
    rw [placed_append, delivered.silent client unregistered]
    rfl
  · intro client
    simpa [placed, received, State.queueOf] using delivered.fifo client
  · simp [ServerPoint.Sound, Registry.queue_register room]

theorem ServerMove.delivered (move : ServerMove state next events)
    (registered : state.WellRegistered) (delivered : Delivered trace state) :
    Delivered (trace ++ events) next := by
  have sound := delivered.sound
  cases move with
  | receive here queued => exact delivered.receive _ here
  | register here isInit room opened =>
      exact delivered.register registered here isInit room opened
  | dismiss here notText refused =>
      refine delivered.turn ?_ trivial
      intro client newId _
      simp [ServerPoint.pending, here, texts, others, notText]
  | broadcast here isText =>
      refine delivered.turn ?_ isText
      intro client newId _
      simp [ServerPoint.pending, here]
  | reply here found room =>
      rw [here] at sound
      refine delivered.place found sound ?_ trivial
      intro other newId _
      simp [ServerPoint.pending, here]
  | @forward msg i clientQ client here active target found room =>
      rw [here] at sound
      obtain ⟨queue, foreign⟩ := Registry.queue_of_target target
      refine delivered.place found queue ?_ sound
      intro other newId queueOther
      simp only [ServerPoint.pending, here]
      by_cases same : clientQ = other
      · subst same
        have own := registered.registry.distinct i newId clientQ queue queueOther
        subst own
        have isText : msg.type = .msgText := sound
        simp [texts, others, isText, foreign.symm]
      · have different : i ≠ newId := by
          rintro rfl
          rw [queue] at queueOther
          cases queueOther
          exact same rfl
        have onward : i + 1 ≤ newId ↔ i ≤ newId := by omega
        simp [same, onward]
  | @skip msg i here active target =>
      rw [here] at sound
      refine delivered.turn ?_ sound
      intro client newId queue
      simp only [ServerPoint.pending, here]
      by_cases same : i = newId
      · subst same
        have echo : (i : Int) = msg.clientId := by
          simpa [Registry.target, queue] using target
        simp [texts, others, echo]
      · have onward : i + 1 ≤ newId ↔ i ≤ newId := by omega
        simp [onward]
  | @finish msg i here past =>
      refine delivered.turn ?_ trivial
      intro client newId queue
      have bound := (registered.registry.queue_iff newId).mp (by simp [queue])
      have passed : ¬ i ≤ newId := by omega
      simp [ServerPoint.pending, here, passed]

/-- A client's own moves place and consume nothing. -/
theorem ClientMove.unheard {index : Nat} {serverQ after : List ChatMessage}
    {client moved : Client}
    (move : ClientMove index serverQ client after moved events) :
    consumed events = [] ∧ ∀ other,
      placed other events = [] ∧ registration other events = none := by
  cases move <;> exact ⟨rfl, fun _ => ⟨rfl, rfl⟩⟩

/-- What a client receives comes off the front of its queue. -/
theorem ClientMove.takes {index : Nat} {serverQ after : List ChatMessage}
    {client moved : Client}
    (move : ClientMove index serverQ client after moved events) :
    client.queue = received index events ++ moved.queue ∧
      ∀ other, other ≠ index → received other events = [] := by
  cases move with
  | assigned here queued accepted | refused here queued other =>
      refine ⟨by simp [queued], ?_⟩
      intro other different
      simp [Ne.symm different]
  | receive there queued =>
      refine ⟨by simp [queued], ?_⟩
      intro other different
      simp [Ne.symm different]
  | read here =>
      exact ⟨rfl, fun _ _ => rfl⟩
  | _ => exact ⟨rfl, fun _ _ => rfl⟩

theorem Delivered.client (delivered : Delivered trace state) {index : Nat}
    {client after : Client} {serverQ : List ChatMessage}
    (found : state.clients[index]? = some client)
    (moved : ClientMove index state.serverQ client serverQ after events) :
    Delivered (trace ++ events)
      { state with serverQ, clients := state.clients.set index after } := by
  obtain ⟨nothing, unheard⟩ := moved.unheard
  obtain ⟨own, foreign⟩ := moved.takes
  refine delivered.advance rfl (fun other => (unheard other).2) ?_
    (fun other _ => (unheard other).1) ?_ delivered.sound
  · intro other newId _
    simp [(unheard other).1, nothing, texts, others]
  · intro other
    rw [State.queueOf_set found, (unheard other).1, List.append_nil]
    by_cases same : other = index
    · subst same
      rw [if_pos rfl, State.queueOf_eq found]
      exact own
    · rw [if_neg same, foreign other same, List.nil_append]

theorem Delivered.start (delivered : Delivered trace state) (pid : Pid) :
    Delivered (trace ++ [])
      { state with clients := state.clients ++ [.start pid] } := by
  refine delivered.advance rfl (fun _ => rfl) ?_ (fun _ _ => rfl) ?_
    delivered.sound
  · intro client newId _
    simp [placed, consumed, texts, others]
  · intro client
    have same : State.queueOf { state with
        clients := state.clients ++ [.start pid] } client =
          state.queueOf client := by
      unfold State.queueOf
      rcases Nat.lt_trichotomy client state.clients.length with old | new | beyond
      · rw [List.getElem?_append_left old]
      · subst new
        simp [Client.start]
      · rw [List.getElem?_eq_none (Nat.le_of_lt beyond),
          List.getElem?_eq_none]
        rw [List.length_append]
        exact beyond
    rw [same]
    simp [placed, received]

theorem Move.delivered (move : Move state next events)
    (registered : state.WellRegistered) (delivered : Delivered trace state) :
    Delivered (trace ++ events) next := by
  cases move with
  | start fresh => exact delivered.start _
  | server moved => exact moved.delivered registered delivered
  | client found moved => exact delivered.client found moved

end Steps

theorem initial_delivered : Delivered [] initial := by
  refine ⟨?_, ?_, fun _ _ => rfl, ?_, trivial⟩
  · intro client newId
    simp [initial_queue, registration]
  · intro client newId since found
    cases found
  · intro client
    simp [placed, received, State.queueOf, initial]

/-- The invariant rule, for steps between states that are known to be well
registered and delivered. -/
theorem run_history {allowed : State → Action → Prop} {trace : List Event}
    {state : State} (run : system.RunWithin allowed initial trace state)
    (holds : List Event → State → Prop) (initially : holds [] initial)
    (preserved : ∀ {past reached next events}, Move reached next events →
      reached.WellRegistered → Delivered past reached → holds past reached →
      holds (past ++ events) next) : holds trace state := by
  have held : state.WellRegistered ∧ Delivered trace state ∧
      holds trace state := by
    refine run.history (fun past reached =>
      reached.WellRegistered ∧ Delivered past reached ∧ holds past reached)
      ⟨initial_wellRegistered, initial_delivered, initially⟩ ?_
    rintro past reached action next events ⟨registered, delivered, held⟩ _ taken
    have move := step_move taken
    exact ⟨move.wellRegistered registered, move.delivered registered delivered,
      preserved move registered delivered held⟩
  exact held.2.2

theorem run_delivered {allowed : State → Action → Prop}
    {trace : List Event} {state : State}
    (run : system.RunWithin allowed initial trace state) :
    Delivered trace state :=
  run_history run Delivered initial_delivered
    fun move registered delivered _ => move.delivered registered delivered

end SysOp.Lab4
