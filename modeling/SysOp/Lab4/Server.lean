import SysOp.Lab4.Delivery

/-!
# One turn of the server loop

What `server.c` makes of messages of any content, whoever sent them, and of
any outcome of `mq_open`.  The server of the chat, interleaved with its
clients, works through the messages it consumes in just this way.
-/

namespace SysOp.Lab4

open SysOp.Foundation

/-- A message, with the result of `mq_open` should the server come to call
it. -/
structure Input where
  msg : ChatMessage
  opened : Option Nat

structure Send where
  clientQ : Nat
  msg : ChatMessage

namespace Registry

/-- The queues the broadcast loop sends to from iteration `i` on. -/
def forwardsFrom (registry : Registry) (msg : ChatMessage) (i : Nat) :
    List Nat :=
  (List.range' i (registry.activeClients - i)).filterMap (registry.target msg)

/-- The body of the server loop after `mq_receive`. -/
def serve (registry : Registry) (input : Input) : Registry × List Send :=
  match input.msg.type with
  | .msgInit =>
      if registry.activeClients < MAX_CLIENTS then
        match input.opened with
        | some clientQ =>
            let newId := registry.activeClients
            (registry.register clientQ, [⟨clientQ, idAssign newId⟩])
        | none => (registry, [])
      else
        (registry, [])
  | .msgText =>
      (registry, (registry.forwardsFrom input.msg 0).map (⟨·, input.msg⟩))
  | _ => (registry, [])

def serveAll (registry : Registry) : List Input → Registry × List Send
  | [] => (registry, [])
  | input :: rest =>
      let (next, sends) := registry.serve input
      let (last, more) := next.serveAll rest
      (last, sends ++ more)

/-- What the registry may do with one message. -/
structure Serves (registry : Registry) (input : Input) : Prop where
  compact : (registry.serve input).1.Compact
  kept : ∀ i clientQ, registry.queue i = some clientQ →
    (registry.serve input).1.queue i = some clientQ
  registered : ∀ clientQ, input.msg.type = .msgInit →
    input.opened = some clientQ → registry.activeClients < MAX_CLIENTS →
    (registry.serve input).1.activeClients = registry.activeClients + 1 ∧
      (registry.serve input).1.queue registry.activeClients = some clientQ ∧
      (registry.serve input).2 = [⟨clientQ, idAssign registry.activeClients⟩]
  refused : input.msg.type = .msgInit →
    input.opened = none ∨ registry.activeClients = MAX_CLIENTS →
    (registry.serve input).1 = registry
  untouched : input.msg.type ≠ .msgInit → (registry.serve input).1 = registry
  forwarded : input.msg.type = .msgText →
    (∀ send ∈ (registry.serve input).2, send.msg = input.msg) ∧
      (registry.serve input).2.map (some ∘ Send.clientQ) =
        ((List.range registry.activeClients).filter
          fun i : Nat => decide ((i : Int) ≠ input.msg.clientId)).map
            registry.queue

variable {registry : Registry}

theorem serveAll_append (earlier later : List Input) :
    registry.serveAll (earlier ++ later) =
      (((registry.serveAll earlier).1.serveAll later).1,
        (registry.serveAll earlier).2 ++
          ((registry.serveAll earlier).1.serveAll later).2) := by
  induction earlier generalizing registry with
  | nil => simp [serveAll]
  | cons input rest inductionHypothesis =>
      simp [serveAll, inductionHypothesis, List.append_assoc]

@[simp]
theorem serveAll_singleton (input : Input) :
    registry.serveAll [input] = registry.serve input := by
  simp [serveAll]

/-- The registry changes by a registration or not at all. -/
theorem serve_registry (registry : Registry) (input : Input) :
    (registry.serve input).1 = registry ∨
      ∃ clientQ, input.msg.type = .msgInit ∧ input.opened = some clientQ ∧
        registry.activeClients < MAX_CLIENTS ∧
        (registry.serve input).1 = registry.register clientQ := by
  unfold serve
  split
  case h_1 isInit =>
    split
    case isTrue room =>
      split
      case h_1 clientQ opened =>
        exact .inr ⟨clientQ, isInit, opened, room, rfl⟩
      case h_2 => exact .inl rfl
    case isFalse => exact .inl rfl
  case h_2 => exact .inl rfl
  case h_3 => exact .inl rfl

theorem Compact.serve (compact : registry.Compact) (input : Input) :
    (registry.serve input).1.Compact := by
  rcases serve_registry registry input with same | ⟨clientQ, _, _, room, moved⟩
  · rw [same]
    exact compact
  · rw [moved]
    exact compact.register room clientQ

/-- A registered client stays where it is. -/
theorem Compact.kept (compact : registry.Compact) (input : Input)
    {i clientQ : Nat} (queue : registry.queue i = some clientQ) :
    (registry.serve input).1.queue i = some clientQ := by
  rcases serve_registry registry input with same | ⟨other, _, _, room, moved⟩
  · rw [same]
    exact queue
  · have active := (compact.queue_iff i).mp (by simp [queue])
    rw [moved, queue_register room, if_neg active.ne]
    exact queue

theorem Compact.serveAll (compact : registry.Compact) (inputs : List Input) :
    (registry.serveAll inputs).1.Compact ∧
      ∀ i clientQ, registry.queue i = some clientQ →
        (registry.serveAll inputs).1.queue i = some clientQ := by
  induction inputs generalizing registry with
  | nil => exact ⟨compact, fun _ _ queue => queue⟩
  | cons input rest inductionHypothesis =>
      obtain ⟨still, kept⟩ := inductionHypothesis (compact.serve input)
      refine ⟨still, ?_⟩
      intro i clientQ queue
      exact kept i clientQ (compact.kept input queue)

/-- Each iteration but the sender's own finds a valid descriptor. -/
theorem Compact.target (compact : registry.Compact) (msg : ChatMessage)
    {i : Nat} (active : i < registry.activeClients) :
    (registry.target msg i).map some =
      if (i : Int) ≠ msg.clientId then some (registry.queue i) else none := by
  obtain ⟨clientQ, queue⟩ :=
    Option.isSome_iff_exists.mp ((compact.queue_iff i).mpr active)
  unfold Registry.target
  split <;> simp [queue]

theorem Compact.forwards (compact : registry.Compact) (msg : ChatMessage) :
    (registry.forwardsFrom msg 0).map some =
      ((List.range registry.activeClients).filter
        fun i : Nat => decide ((i : Int) ≠ msg.clientId)).map registry.queue := by
  rw [forwardsFrom, Nat.sub_zero, ← List.range_eq_range', List.map_filterMap,
    ← List.filterMap_eq_map, ← List.filterMap_eq_filter, List.filterMap_filterMap]
  apply List.filterMap_congr
  intro i membership
  rw [compact.target msg (List.mem_range.mp membership)]
  by_cases own : (i : Int) = msg.clientId <;> simp [own, Option.guard]

theorem Compact.serves (compact : registry.Compact) (input : Input) :
    registry.Serves input where
  compact := compact.serve input
  kept i clientQ queue := compact.kept input queue
  registered clientQ isInit opened room := by
    have served : registry.serve input = (registry.register clientQ,
        [⟨clientQ, idAssign registry.activeClients⟩]) := by
      simp only [Registry.serve, isInit, opened, if_pos room]
    rw [served]
    refine ⟨rfl, ?_, rfl⟩
    rw [queue_register room, if_pos rfl]
  refused isInit cannot := by
    rcases serve_registry registry input with same |
      ⟨clientQ, _, opened, room, _⟩
    · exact same
    · rcases cannot with failed | full
      · rw [opened] at failed
        cases failed
      · exact absurd full room.ne
  untouched notInit := by
    rcases serve_registry registry input with same | ⟨_, isInit, _⟩
    · exact same
    · exact absurd isInit notInit
  forwarded isText := by
    have sends : (registry.serve input).2 =
        (registry.forwardsFrom input.msg 0).map (⟨·, input.msg⟩) := by
      simp only [Registry.serve, isText]
    rw [sends]
    refine ⟨?_, ?_⟩
    · intro send membership
      obtain ⟨clientQ, _, rfl⟩ := List.mem_map.mp membership
      rfl
    · rw [List.map_map, ← compact.forwards]
      rfl

theorem initial_compact : Registry.initial.Compact where
  active_le := Nat.zero_le _
  queue_iff i := by
    rw [show Registry.initial.queue i = none from initial_queue i]
    simp [Registry.initial]

end Registry

/-- Whatever messages arrive and however `mq_open` ends. -/
theorem serveAll_serves (earlier : List Input) :
    (∀ input, (Registry.initial.serveAll earlier).1.Serves input) ∧
      ∀ later i clientQ,
        (Registry.initial.serveAll earlier).1.queue i = some clientQ →
        (Registry.initial.serveAll (earlier ++ later)).1.queue i =
          some clientQ := by
  have compact := (Registry.initial_compact.serveAll earlier).1
  refine ⟨compact.serves, ?_⟩
  intro later i clientQ queue
  rw [Registry.serveAll_append]
  exact (compact.serveAll later).2 i clientQ queue

/-- Two clients have registered. -/
private def pair : List Input :=
  [⟨{ ChatMessage.zeroed with type := .msgInit }, some 7⟩,
    ⟨{ ChatMessage.zeroed with type := .msgInit }, some 9⟩]

/-- The third is registered, and a text of the second goes to the first. -/
theorem serveAll_serves_pair :
    ((Registry.initial.serveAll pair).1.serve
        ⟨⟨.msgInit, 0, [], []⟩, some 4⟩).2 = [⟨4, idAssign 2⟩] ∧
      ((Registry.initial.serveAll pair).1.serve
        ⟨⟨.msgText, 1, [], ['h', 'i']⟩, none⟩).2.map
          (some ∘ Send.clientQ) = [some 7] := by
  have serves := (serveAll_serves pair).1
  refine ⟨((serves _).registered 4 rfl rfl (by decide)).2.2, ?_⟩
  rw [((serves _).forwarded rfl).2]
  decide

section Chat

/-- All messages placed in queues of clients. -/
def sends (trace : List Event) : List Send :=
  trace.filterMap fun
    | .placed clientQ msg => some ⟨clientQ, msg⟩
    | _ => none

/-- What the server has still to send for the message it is busy with. -/
def ServerPoint.unsent (registry : Registry) : ServerPoint → List Send
  | .receiving | .dispatching _ => []
  | .replying clientQ newId => [⟨clientQ, idAssign newId⟩]
  | .broadcasting msg i => (registry.forwardsFrom msg i).map (⟨·, msg⟩)

/-- The server is where its loop gets to on the messages it has consumed. -/
def Served (trace : List Event) (state : State) : Prop :=
  ∃ inputs : List Input,
    inputs.map Input.msg ++ state.point.taken = consumed trace ∧
    Registry.initial.serveAll inputs =
      (state.registry, sends trace ++ state.point.unsent state.registry)

variable {trace events : List Event} {state next : State}

@[simp]
theorem sends_append (earlier later : List Event) :
    sends (earlier ++ later) = sends earlier ++ sends later :=
  List.filterMap_append

theorem Registry.forwardsFrom_active {registry : Registry} {i : Nat}
    (msg : ChatMessage) (active : i < registry.activeClients) :
    registry.forwardsFrom msg i =
      (registry.target msg i).toList ++ registry.forwardsFrom msg (i + 1) := by
  obtain ⟨rest, length⟩ := Nat.exists_eq_add_of_lt active
  have first : registry.activeClients - i = rest + 1 := by omega
  have others : registry.activeClients - (i + 1) = rest := by omega
  rw [forwardsFrom, forwardsFrom, first, others, List.range'_succ]
  cases target : registry.target msg i with
  | none => simp [target]
  | some clientQ => simp [target]

theorem Registry.forwardsFrom_past {registry : Registry} {i : Nat}
    (msg : ChatMessage) (past : ¬ i < registry.activeClients) :
    registry.forwardsFrom msg i = [] := by
  have none : registry.activeClients - i = 0 := by omega
  rw [forwardsFrom, none]
  rfl

/-- The message at hand is dealt with as the loop deals with it. -/
theorem Served.dispatch (served : Served trace state) {msg : ChatMessage}
    (here : state.point = .dispatching msg) (opened : Option Nat)
    (undispatched : next.point.taken = []) (nothing : consumed events = [])
    (outcome : state.registry.serve ⟨msg, opened⟩ =
      (next.registry, sends events ++ next.point.unsent next.registry)) :
    Served (trace ++ events) next := by
  obtain ⟨inputs, taken, sent⟩ := served
  refine ⟨inputs ++ [⟨msg, opened⟩], ?_, ?_⟩
  · rw [consumed_append, ← taken, undispatched, nothing]
    simp [here, ServerPoint.taken]
  · rw [Registry.serveAll_append, sent, Registry.serveAll_singleton, outcome]
    simp [here, ServerPoint.unsent]

/-- A step that only sends part of what is left to send. -/
theorem Served.advance (served : Served trace state)
    (sameRegistry : next.registry = state.registry)
    (taken : next.point.taken = state.point.taken ++ consumed events)
    (sent : sends events ++ next.point.unsent state.registry =
      state.point.unsent state.registry) :
    Served (trace ++ events) next := by
  obtain ⟨inputs, before, outcome⟩ := served
  refine ⟨inputs, ?_, ?_⟩
  · rw [consumed_append, ← before, taken, List.append_assoc]
  · rw [outcome, sends_append, sameRegistry, List.append_assoc, sent]

theorem Registry.serve_dismissed {registry : Registry} {input : Input}
    (notText : input.msg.type ≠ .msgText)
    (refused : input.msg.type = .msgInit →
      MAX_CLIENTS ≤ registry.activeClients ∨ input.opened = none) :
    registry.serve input = (registry, []) := by
  unfold serve
  split
  case h_1 isInit =>
    rcases refused isInit with full | failed
    · rw [if_neg full.not_gt]
    · simp only [failed, ite_self]
  case h_2 isText => exact absurd isText notText
  case h_3 => rfl

theorem ServerMove.served (move : ServerMove state next events)
    (served : Served trace state) : Served (trace ++ events) next := by
  cases move with
  | receive here queued =>
      refine served.advance rfl ?_ ?_
      · simp [here, ServerPoint.taken, consumed]
      · simp [here, ServerPoint.unsent, sends]
  | @register msg clientQ here isInit room opened =>
      refine served.dispatch here (some clientQ) rfl rfl ?_
      simp [Registry.serve, isInit, room, sends, ServerPoint.unsent]
  | @dismiss msg here notText refused =>
      refine served.dispatch here (mqOpen state.clients msg.queueName) rfl rfl
        ?_
      exact Registry.serve_dismissed notText refused
  | broadcast here isText =>
      refine served.dispatch here none rfl rfl ?_
      simp [Registry.serve, isText, sends, ServerPoint.unsent]
  | reply here found room =>
      refine served.advance rfl ?_ ?_
      · simp [here, ServerPoint.taken, consumed]
      · simp [here, ServerPoint.unsent, sends]
  | forward here active target found room =>
      refine served.advance rfl ?_ ?_
      · simp [here, ServerPoint.taken, consumed]
      · simp [here, ServerPoint.unsent, sends, target,
          Registry.forwardsFrom_active _ active]
  | skip here active target =>
      refine served.advance rfl ?_ ?_
      · simp [here, ServerPoint.taken, consumed]
      · simp [here, ServerPoint.unsent, sends, target,
          Registry.forwardsFrom_active _ active]
  | finish here past =>
      refine served.advance rfl ?_ ?_
      · simp [here, ServerPoint.taken, consumed]
      · simp [here, ServerPoint.unsent, sends,
          Registry.forwardsFrom_past _ past]

theorem ClientMove.served {index : Nat} {client after : Client}
    {serverQ : List ChatMessage}
    (moved : ClientMove index state.serverQ client serverQ after events)
    (served : Served trace state) :
    Served (trace ++ events)
      { state with serverQ, clients := state.clients.set index after } := by
  refine served.advance rfl ?_ ?_
  · rw [moved.unheard.1, List.append_nil]
  · cases moved <;> rfl

theorem Move.served (move : Move state next events)
    (served : Served trace state) : Served (trace ++ events) next := by
  cases move with
  | start fresh => exact served.advance rfl (List.append_nil _).symm rfl
  | server moved => exact moved.served served
  | client found moved => exact moved.served served

end Chat

theorem initial_served : Served [] initial :=
  ⟨[], rfl, rfl⟩

/-- The interleaved server refines its loop. -/
theorem run_served {allowed : State → Action → Prop} {trace : List Event}
    {state : State} (run : system.RunWithin allowed initial trace state) :
    Served trace state :=
  run.history Served initial_served
    fun served _ taken => (step_move taken).served served

end SysOp.Lab4
