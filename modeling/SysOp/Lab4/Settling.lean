import SysOp.Foundation.Inevitable
import SysOp.Lab4.Departure
import SysOp.Lab4.Speech

/-!
# The chat comes to rest

While nobody types, comes or goes, the chat cannot go on for ever: the server
and the receivers empty all queues, unless the server has to send to a full
queue that nobody reads any more.
-/

namespace SysOp.Lab4

open SysOp.Foundation

def Client.Reading (client : Client) : Prop :=
  match client.parent with
  | .reading _ => True
  | _ => False

/-- Nobody types, comes or goes. -/
def Unprompted (state : State) : Action → Prop
  | .server | .child _ => True
  | .parent index _ => ∀ client ∈ state.clients[index]?, ¬ client.Reading
  | .start _ | .interruptParent _ | .interruptChild _ => False

/-- Nobody reads the queue any more; the parent may have outlived its child. -/
def Client.Deserted (client : Client) : Prop :=
  client.child = .exited ∨ client.parent = .exited ∧ client.child = .notForked

/-- Neither of its processes has left, nor begun to. -/
def Client.Staying (client : Client) : Prop :=
  ¬ client.leaving ∧ client.child ≠ .unlinking ∧ client.child ≠ .exited

def State.Blocked (state : State) : Prop :=
  ∃ clientQ ∈ state.sendingTo, ∃ client ∈ state.clients[clientQ]?,
    client.Deserted ∧ client.full

/-- Only somebody who types or the server can make the client move. -/
def Client.Idle (client : Client) : Prop :=
  match client.parent, client.child with
  | .awaitingReply, .notForked | .reading _, .receiving => client.queue = []
  | .reading _, .exited | .exited, .notForked | .exited, .exited => True
  | _, _ => False

structure State.Settled (state : State) : Prop where
  point : state.point = .receiving
  serverQ : state.serverQ = []
  clients : ∀ client ∈ state.clients, client.Idle

/-- Who has a child. -/
def Client.Paired (client : Client) : Prop :=
  match client.parent with
  | .opening | .sendingInit | .awaitingReply | .forking _ =>
      client.child = .notForked
  | .reading _ | .sending _ _ => client.child ≠ .notForked
  | .unlinking | .killing => True
  | .exited => client.child ≠ .receiving

instance (client : Client) : Decidable client.leaving :=
  match client with
  | { parent := .unlinking, .. } | { parent := .killing, .. }
  | { parent := .exited, .. } => inferInstanceAs (Decidable True)
  | { parent := .opening, .. } | { parent := .sendingInit, .. }
  | { parent := .awaitingReply, .. } | { parent := .forking _, .. }
  | { parent := .reading _, .. } | { parent := .sending _ _, .. } =>
      inferInstanceAs (Decidable False)

instance (client : Client) : Decidable client.Staying :=
  inferInstanceAs (Decidable (_ ∧ _))

section Pairs

variable {state next : State} {events : List Event} {index : Nat}
  {serverQ later : List ChatMessage} {client after : Client}

theorem ClientMove.paired
    (move : ClientMove index serverQ client later after events)
    (paired : client.Paired) : after.Paired := by
  cases move with
  | create here | sendInit here | assigned here | fork here =>
      rw [Client.Paired, here] at paired
      simp_all [Client.Paired]
  | readEmpty here => exact paired
  | read here | send here =>
      rw [Client.Paired, here] at paired
      exact paired
  | refused | unlink | interruptParent => trivial
  | kill here =>
      simp only [Client.Paired]
      split
      · intro same
        cases same
      next other => exact other
  | receive there => exact paired
  | childUnlink there =>
      simp only [Client.Paired] at paired ⊢
      split at paired <;> simp_all
  | interruptChild there =>
      simp only [Client.Paired] at paired ⊢
      split at paired <;> simp_all

end Pairs

section Invariant

/-- What every client keeps to, and what the chat is about. -/
structure Regular (trace : List Event) (state : State) : Prop where
  registered : state.WellRegistered
  delivered : Delivered trace state
  spoken : Spoken trace state
  paired : ∀ client ∈ state.clients, client.Paired

theorem paired_set {clients : List Client} {index : Nat}
    (paired : ∀ client ∈ clients, client.Paired) {after : Client}
    (now : after.Paired) :
    ∀ client ∈ clients.set index after, client.Paired := by
  intro client member
  rcases List.mem_or_eq_of_mem_set member with old | rfl
  · exact paired client old
  · exact now

theorem Move.paired {state next : State} {events : List Event}
    (move : Move state next events)
    (paired : ∀ client ∈ state.clients, client.Paired) :
    ∀ client ∈ next.clients, client.Paired := by
  cases move with
  | start fresh =>
      intro client member
      rcases List.mem_append.mp member with old | new
      · exact paired client old
      · rw [List.mem_singleton.mp new]
        rfl
  | server moved =>
      cases moved with
      | reply _ found | forward _ _ _ found =>
          have before := paired _ (List.mem_of_getElem? found)
          exact paired_set paired before
      | receive | register | dismiss | broadcast | skip | finish =>
          exact paired
  | client found moved =>
      exact paired_set paired
        (moved.paired (paired _ (List.mem_of_getElem? found)))

theorem Move.regular {trace events : List Event} {state next : State}
    (move : Move state next events) (regular : Regular trace state) :
    Regular (trace ++ events) next where
  registered := move.wellRegistered regular.registered
  delivered := move.delivered regular.registered regular.delivered
  spoken := move.spoken regular.registered regular.delivered regular.spoken
  paired := move.paired regular.paired

theorem initial_regular : Regular [] initial where
  registered := initial_wellRegistered
  delivered := initial_delivered
  spoken := initial_spoken
  paired := fun _ member => absurd member List.not_mem_nil

theorem run_regular {allowed : State → Action → Prop} {trace : List Event}
    {state : State} (run : system.RunWithin allowed initial trace state) :
    Regular trace state :=
  run.history Regular initial_regular fun regular _ taken =>
    (step_move taken).regular regular

end Invariant

section Effort

/-- What a message to the server still costs at most. -/
def messageEffort : Nat := 2 * MAX_CLIENTS + 3

def Parent.effort : Parent → Nat
  | .opening => messageEffort + 5
  | .sendingInit => messageEffort + 4
  | .awaitingReply => 3
  | .forking _ => 1
  | .reading _ => 0
  | .sending _ _ => messageEffort + 1
  | .unlinking => 3
  | .killing => 2
  | .exited => 0

def Child.effort : Child → Nat
  | .unlinking => 1
  | .notForked | .receiving | .exited => 0

def ServerPoint.effort : ServerPoint → Nat
  | .receiving => 0
  | .dispatching _ => 2 * MAX_CLIENTS + 2
  | .replying _ _ => 2
  | .broadcasting _ i => 2 * (MAX_CLIENTS - i) + 1

def Client.effort (client : Client) : Nat :=
  client.parent.effort + client.child.effort + client.queue.length

/-- At most so many steps are left if nobody types, comes or goes. -/
def State.effort (state : State) : Nat :=
  state.point.effort + state.serverQ.length * messageEffort +
    census Client.effort state.clients

variable {state next : State} {events : List Event} {index : Nat}
  {serverQ later : List ChatMessage} {client after : Client}

theorem parentStep_effort {line : List Char} (listening : ¬ client.Reading)
    (taken : parentStep index line serverQ client =
      some (later, after, events)) :
    later.length * messageEffort + after.effort <
      serverQ.length * messageEffort + client.effort := by
  unfold parentStep at taken
  split at taken
  case h_1 here =>
    cases taken
    simp only [Client.effort, here, Parent.effort]
    omega
  case h_2 here =>
    simp only [Option.map_eq_some_iff, mqSend_eq_some_iff,
      Prod.mk.injEq] at taken
    obtain ⟨_, ⟨room, rfl⟩, rfl, rfl, rfl⟩ := taken
    simp only [Client.effort, here, Parent.effort, List.length_append,
      List.length_singleton, Nat.succ_mul]
    omega
  case h_3 here =>
    simp only [Option.map_eq_some_iff, Prod.exists, mqReceive_eq_some_iff,
      Prod.mk.injEq] at taken
    obtain ⟨msg, rest, queued, rfl, rfl, rfl⟩ := taken
    simp only [Client.effort, here, queued, List.length_cons]
    split <;> simp only [Parent.effort] <;> omega
  case h_4 myId here =>
    cases taken
    simp only [Client.effort, here, Parent.effort, Child.effort]
    omega
  case h_5 myId here =>
    rw [Client.Reading, here] at listening
    exact absurd trivial listening
  case h_6 myId text here =>
    simp only [Option.map_eq_some_iff, mqSend_eq_some_iff,
      Prod.mk.injEq] at taken
    obtain ⟨_, ⟨room, rfl⟩, rfl, rfl, rfl⟩ := taken
    simp only [Client.effort, here, Parent.effort, List.length_append,
      List.length_singleton, Nat.succ_mul]
    omega
  case h_7 here =>
    cases taken
    simp only [Client.effort, here, Parent.effort]
    omega
  case h_8 here =>
    cases taken
    simp only [Client.effort, here, Parent.effort]
    split
    next receiving => simp only [receiving, Child.effort]; omega
    next => omega
  case h_9 => simp at taken

theorem childStep_effort
    (taken : childStep index serverQ client = some (later, after, events)) :
    later.length * messageEffort + after.effort <
      serverQ.length * messageEffort + client.effort := by
  unfold childStep at taken
  split at taken
  case h_1 there =>
    simp only [Option.map_eq_some_iff, Prod.exists, mqReceive_eq_some_iff,
      Prod.mk.injEq] at taken
    obtain ⟨msg, rest, queued, rfl, rfl, rfl⟩ := taken
    simp only [Client.effort, queued, List.length_cons]
    omega
  case h_2 there =>
    cases taken
    simp only [Client.effort, there, Child.effort]
    omega
  case h_3 => simp at taken
  case h_4 => simp at taken

/-- Handing a message to a client takes less than it saves. -/
theorem census_enqueue {clients : List Client} {clientQ : Nat}
    (found : clients[clientQ]? = some client) (msg : ChatMessage) :
    census Client.effort (clients.set clientQ (client.enqueue msg)) =
      census Client.effort clients + 1 := by
  have counted := census_set Client.effort found (client.enqueue msg)
  simp only [Client.effort, Client.enqueue, List.length_append,
    List.length_singleton] at counted ⊢
  omega

theorem ServerMove.effort (move : ServerMove state next events)
    (active : state.registry.activeClients ≤ MAX_CLIENTS) :
    next.effort < state.effort := by
  cases move with
  | receive here queued =>
      simp only [State.effort, here, queued, List.length_cons, Nat.succ_mul,
        ServerPoint.effort, messageEffort]
      omega
  | register here | dismiss here | broadcast here =>
      simp only [State.effort, here, ServerPoint.effort]
      omega
  | reply here found =>
      simp only [State.effort, here, ServerPoint.effort, census_enqueue found]
      omega
  | forward here inside _ found =>
      simp only [State.effort, here, ServerPoint.effort, census_enqueue found]
      omega
  | skip here | finish here =>
      simp only [State.effort, here, ServerPoint.effort]
      omega

theorem moveClient_effort
    {move : List ChatMessage → Client →
      Option (List ChatMessage × Client × List Event)}
    (taken : state.moveClient index move = some (next, events))
    (lower : ∀ {client later after events},
      state.clients[index]? = some client →
      move state.serverQ client = some (later, after, events) →
      later.length * messageEffort + after.effort <
        state.serverQ.length * messageEffort + client.effort) :
    next.effort < state.effort := by
  obtain ⟨client, later, after, found, moved, rfl⟩ :=
    State.moveClient_eq_some taken
  have less := lower found moved
  have counted := census_set Client.effort found after
  simp only [State.effort]
  omega

theorem step_effort {action : Action} (registered : state.WellRegistered)
    (unprompted : Unprompted state action)
    (taken : step state action = some (next, events)) :
    next.effort < state.effort := by
  cases action with
  | server => exact (serverStep_move taken).effort registered.registry.active_le
  | parent index line =>
      exact moveClient_effort taken fun found =>
        parentStep_effort (unprompted _ found)
  | child index => exact moveClient_effort taken fun _ => childStep_effort
  | start | interruptParent | interruptChild => exact unprompted.elim

end Effort

section Rest

variable {state : State} {index : Nat} {serverQ : List ChatMessage}
  {client : Client}

theorem serverStep_eq_none (disabled : serverStep state = none) :
    (state.point = .receiving ∧ state.serverQ = []) ∨
      ∃ clientQ ∈ state.sendingTo,
        ∀ client ∈ state.clients[clientQ]?, client.full := by
  have refused {clientQ : Nat} {msg : ChatMessage}
      (disabled : sendTo state.clients clientQ msg = none) :
      ∀ client ∈ state.clients[clientQ]?, client.full := by
    intro client found
    by_contra room
    have sent : sendTo state.clients clientQ msg = some _ :=
      sendTo_eq_some_iff.mpr ⟨client, found, Nat.lt_of_not_le room, rfl⟩
    rw [disabled] at sent
    cases sent
  unfold serverStep at disabled
  split at disabled
  case h_1 here =>
    left
    refine ⟨here, ?_⟩
    cases queued : state.serverQ with
    | nil => rfl
    | cons => simp [queued, mqReceive] at disabled
  case h_2 msg here =>
    split at disabled
    case h_1 =>
      split at disabled
      · split at disabled <;> cases disabled
      · cases disabled
    case h_2 => cases disabled
    case h_3 => cases disabled
  case h_3 clientQ newId here =>
    right
    refine ⟨clientQ, ?_, refused (Option.map_eq_none_iff.mp disabled)⟩
    rw [State.sendingTo, here]
    rfl
  case h_4 msg i here =>
    split at disabled
    case isTrue active =>
      split at disabled
      case h_1 clientQ target =>
        right
        refine ⟨clientQ, ?_, refused (Option.map_eq_none_iff.mp disabled)⟩
        simp only [State.sendingTo, here, if_pos active]
        exact target
      case h_2 => cases disabled
    case isFalse => cases disabled

theorem parentStep_eq_none {line : List Char}
    (disabled : parentStep index line serverQ client = none) :
    client.parent = .exited ∨
      (client.parent = .awaitingReply ∧ client.queue = []) ∨
      (MAX_MSG ≤ serverQ.length ∧ (client.parent = .sendingInit ∨
        ∃ myId text, client.parent = .sending myId text)) := by
  unfold parentStep at disabled
  split at disabled
  case h_2 here =>
    simp only [Option.map_eq_none_iff, mqSend] at disabled
    split at disabled
    · cases disabled
    next full => exact .inr (.inr ⟨Nat.le_of_not_lt full, .inl here⟩)
  case h_3 here =>
    cases queued : client.queue with
    | nil => exact .inr (.inl ⟨here, rfl⟩)
    | cons => simp [queued, mqReceive] at disabled
  case h_5 =>
    split at disabled <;> cases disabled
  case h_6 myId text here =>
    simp only [Option.map_eq_none_iff, mqSend] at disabled
    split at disabled
    · cases disabled
    next full =>
      exact .inr (.inr ⟨Nat.le_of_not_lt full, .inr ⟨myId, text, here⟩⟩)
  case h_9 here => exact .inl here
  all_goals cases disabled

theorem childStep_eq_none (disabled : childStep index serverQ client = none) :
    client.child = .notForked ∨ client.child = .exited ∨
      client.child = .receiving ∧ client.queue = [] := by
  unfold childStep at disabled
  split at disabled
  case h_1 there =>
    cases queued : client.queue with
    | nil => exact .inr (.inr ⟨there, rfl⟩)
    | cons => simp [queued, mqReceive] at disabled
  case h_2 => cases disabled
  case h_3 there => exact .inl there
  case h_4 there => exact .inr (.inl there)

section Stuck

variable (stuck : ¬ system.Able Unprompted state)
include stuck

theorem step_eq_none {action : Action} (unprompted : Unprompted state action) :
    step state action = none := by
  by_contra enabled
  exact stuck ⟨action, unprompted, Option.isSome_iff_ne_none.mpr enabled⟩

theorem parent_eq_none (found : state.clients[index]? = some client)
    (listening : ¬ client.Reading) :
    parentStep index [] state.serverQ client = none := by
  have disabled : step state (.parent index []) = none := by
    refine step_eq_none stuck fun other there => ?_
    rw [found] at there
    cases there
    exact listening
  exact moveAt_eq_none found (Option.map_eq_none_iff.mp disabled)

theorem child_eq_none (found : state.clients[index]? = some client) :
    childStep index state.serverQ client = none := by
  have disabled : step state (.child index) = none := step_eq_none stuck trivial
  exact moveAt_eq_none found (Option.map_eq_none_iff.mp disabled)

end Stuck

/-- Who the server sends to is registered. -/
theorem Regular.registered_of_sendingTo {trace : List Event}
    (regular : Regular trace state) {clientQ : Nat}
    (sending : clientQ ∈ state.sendingTo) :
    ∃ i, state.registry.queue i = some clientQ := by
  have sound := regular.delivered.sound
  unfold State.sendingTo at sending
  split at sending
  case h_1 clientQ newId here =>
    cases sending
    rw [here] at sound
    exact ⟨newId, sound⟩
  case h_2 msg i here =>
    split at sending
    case isTrue => exact ⟨i, (Registry.queue_of_target sending).1⟩
    case isFalse => cases sending
  case h_3 => cases sending

theorem idle_of_stuck {trace : List Event} (regular : Regular trace state)
    (stuck : ¬ system.Able Unprompted state) (empty : state.serverQ = [])
    (found : state.clients[index]? = some client) : client.Idle := by
  have paired := regular.paired client (List.mem_of_getElem? found)
  have child := childStep_eq_none (child_eq_none stuck found)
  have parent : client.Reading ∨ client.parent = .exited ∨
      (client.parent = .awaitingReply ∧ client.queue = []) := by
    by_cases reading : client.Reading
    · exact .inl reading
    · rcases parentStep_eq_none (parent_eq_none stuck found reading) with
        exited | awaiting | ⟨full, _⟩
      · exact .inr (.inl exited)
      · exact .inr (.inr awaiting)
      · rw [empty] at full
        exact absurd full (by decide)
  unfold Client.Idle
  rcases parent with reading | exited | ⟨awaiting, queue⟩
  · unfold Client.Reading at reading
    split at reading
    next here =>
      rw [Client.Paired, here] at paired
      rcases child with none | gone | ⟨receiving, queue⟩
      · exact absurd none paired
      · simp [here, gone]
      · simp [here, receiving, queue]
    next => exact reading.elim
  · rw [Client.Paired, exited] at paired
    rcases child with none | gone | ⟨receiving, _⟩
    · simp [exited, none]
    · simp [exited, gone]
    · exact absurd receiving paired
  · rw [Client.Paired, awaiting] at paired
    simp [awaiting, paired, queue]

theorem deserted_of_stuck {trace : List Event} (regular : Regular trace state)
    (stuck : ¬ system.Able Unprompted state) {i : Nat}
    (queue : state.registry.queue i = some index)
    (found : state.clients[index]? = some client) (full : client.full) :
    client.Deserted := by
  have paired := regular.paired client (List.mem_of_getElem? found)
  have waiting : client.queue ≠ [] := by
    intro empty
    rw [Client.full, empty] at full
    exact absurd full (by decide)
  rcases childStep_eq_none (child_eq_none stuck found) with
    none | gone | ⟨_, empty⟩
  · right
    have silent : ¬ client.Reading := by
      intro reading
      unfold Client.Reading at reading
      split at reading
      next here =>
        rw [Client.Paired, here] at paired
        exact paired none
      next => exact reading
    rcases parentStep_eq_none (parent_eq_none stuck found silent) with
      exited | ⟨_, empty⟩ | ⟨_, unsent | ⟨myId, text, sending⟩⟩
    · exact ⟨exited, none⟩
    · exact absurd empty waiting
    · obtain ⟨known, there, requests⟩ := regular.registered.known i index queue
      rw [found] at there
      cases there
      rw [State.requests, Client.unsent, unsent] at requests
      exact absurd requests (Nat.succ_ne_zero _)
    · rw [Client.Paired, sending] at paired
      exact absurd none paired
  · exact .inl gone
  · exact absurd empty waiting

theorem settled_or_blocked {trace : List Event} (regular : Regular trace state)
    (stuck : ¬ system.Able Unprompted state) :
    state.Settled ∨ state.Blocked := by
  have disabled : step state .server = none := step_eq_none stuck trivial
  rcases serverStep_eq_none disabled with ⟨point, empty⟩ | ⟨clientQ, sending, full⟩
  · left
    refine ⟨point, empty, fun client member => ?_⟩
    obtain ⟨index, found⟩ := List.mem_iff_getElem?.mp member
    exact idle_of_stuck regular stuck empty found
  · right
    obtain ⟨i, queue⟩ := regular.registered_of_sendingTo sending
    obtain ⟨client, found, _⟩ := regular.registered.known i clientQ queue
    exact ⟨clientQ, sending, client, found,
      deserted_of_stuck regular stuck queue found (full client found),
      full client found⟩

end Rest

/-- Everything owed has been placed and, where somebody reads, received; and
everything typed has been consumed, unless its author leaves. -/
structure Complete (trace : List Event) (state : State) : Prop where
  placed : ∀ client newId since,
    registration client trace = some (newId, since) →
    placed client trace = owed newId since
  received : ∀ index newId since,
    registration index trace = some (newId, since) →
    ∀ client ∈ state.clients[index]?, client.child = .receiving →
    received index trace = owed newId since
  consumed : ∀ index newId since,
    registration index trace = some (newId, since) →
    ∀ client ∈ state.clients[index]?, ¬ client.leaving →
    sentBy newId (consumed trace) = typed index trace
  refused : ∀ index, ∀ client ∈ state.clients[index]?,
    client.parent = .awaitingReply → registration index trace = none

section Runs

variable {trace : List Event} {state : State}

theorem Regular.complete (regular : Regular trace state)
    (settled : state.Settled) : Complete trace state := by
  have placed : ∀ client newId since,
      registration client trace = some (newId, since) →
      Lab4.placed client trace = owed newId since := by
    intro client newId since registered
    have paid := regular.delivered.paid client newId since registered
    rwa [settled.point, ServerPoint.pending, List.append_nil] at paid
  have fifo {index : Nat} {client : Client}
      (found : state.clients[index]? = some client)
      (empty : client.queue = []) :
      Lab4.placed index trace = Lab4.received index trace := by
    have fifo := regular.delivered.fifo index
    rwa [State.queueOf_eq found, empty, List.append_nil] at fifo
  refine ⟨placed, ?_, ?_, ?_⟩
  · intro index newId since registered client found receiving
    have idle := settled.clients client (List.mem_of_getElem? found)
    have empty : client.queue = [] := by
      unfold Client.Idle at idle
      split at idle <;> simp_all
    rw [← fifo found empty]
    exact placed index newId since registered
  · intro index newId since registered client found staying
    have idle := settled.clients client (List.mem_of_getElem? found)
    have draft : client.draft = [] := by
      unfold Client.Idle at idle
      split at idle <;> simp_all [Client.draft]
    have sent := (regular.spoken.sent index client newId since found
      registered).2 staying
    rw [sent, draft, State.log, settled.serverQ, List.append_nil,
      List.append_nil]
  · intro index client found awaiting
    have idle := settled.clients client (List.mem_of_getElem? found)
    have empty : client.queue = [] := by
      unfold Client.Idle at idle
      split at idle <;> simp_all
    have informed := regular.spoken.informed index client found
    rw [Client.Informed, awaiting] at informed
    cases registered : registration index trace with
    | none => rfl
    | some entry =>
        have owes := placed index entry.1 entry.2 registered
        rw [fifo found empty, informed.2] at owes
        cases owes

/-- The first thing a client receives is its id. -/
theorem Regular.assigned (regular : Regular trace state) {index : Nat}
    {client : Client} {msg : ChatMessage} {rest : List ChatMessage}
    (found : state.clients[index]? = some client)
    (awaiting : client.parent = .awaitingReply)
    (queued : client.queue = msg :: rest) : msg.type = .msgIdAssign := by
  have informed := regular.spoken.informed index client found
  have fifo := regular.delivered.fifo index
  rw [Client.Informed, awaiting] at informed
  rw [informed.2, State.queueOf_eq found, queued, List.nil_append] at fifo
  cases registered : registration index trace with
  | none =>
      rw [regular.delivered.silent index registered] at fifo
      cases fifo
  | some entry =>
      have paid := regular.delivered.paid index entry.1 entry.2 registered
      rw [fifo, owed, List.cons_append] at paid
      rw [(List.cons.inj paid).1]
      rfl

theorem Regular.stays (regular : Regular trace state) {index : Nat}
    {line : List Char} {client after : Client} {later : List ChatMessage}
    {events : List Event} (found : state.clients[index]? = some client)
    (staying : client.Staying)
    (taken : parentStep index line state.serverQ client =
      some (later, after, events)) : after.Staying := by
  obtain ⟨stays, linked, alive⟩ := staying
  unfold parentStep at taken
  split at taken
  case h_1 =>
    cases taken
    exact ⟨id, linked, alive⟩
  case h_2 =>
    obtain ⟨_, _, same⟩ := Option.map_eq_some_iff.mp taken
    cases same
    exact ⟨id, linked, alive⟩
  case h_3 here =>
    simp only [Option.map_eq_some_iff, Prod.exists, mqReceive_eq_some_iff,
      Prod.mk.injEq] at taken
    obtain ⟨msg, rest, queued, rfl, rfl, rfl⟩ := taken
    rw [if_pos (regular.assigned found here queued)]
    exact ⟨id, linked, alive⟩
  case h_4 =>
    cases taken
    exact ⟨id, by simp, by simp⟩
  case h_5 here =>
    split at taken <;> cases taken
    · exact ⟨stays, linked, alive⟩
    · exact ⟨id, linked, alive⟩
  case h_6 =>
    obtain ⟨_, _, same⟩ := Option.map_eq_some_iff.mp taken
    cases same
    exact ⟨id, linked, alive⟩
  case h_7 here | h_8 here =>
    rw [Client.leaving, here] at stays
    exact absurd trivial stays
  case h_9 => cases taken

theorem childStep_stays {index : Nat} {client after : Client}
    {serverQ later : List ChatMessage} {events : List Event}
    (staying : client.Staying)
    (taken : childStep index serverQ client = some (later, after, events)) :
    after.Staying := by
  unfold childStep at taken
  split at taken
  case h_1 =>
    obtain ⟨_, _, same⟩ := Option.map_eq_some_iff.mp taken
    cases same
    exact staying
  case h_2 there => exact absurd there staying.2.1
  case h_3 => cases taken
  case h_4 => cases taken

theorem staying_set {clients : List Client} {index : Nat} {after : Client}
    (staying : ∀ client ∈ clients, client.Staying) (now : after.Staying) :
    ∀ client ∈ clients.set index after, client.Staying := by
  intro client member
  rcases List.mem_or_eq_of_mem_set member with old | rfl
  · exact staying client old
  · exact now

/-- Nobody leaves unless a signal comes. -/
theorem Regular.step_stays (regular : Regular trace state) {action : Action}
    {next : State} {events : List Event}
    (staying : ∀ client ∈ state.clients, client.Staying)
    (unprompted : Unprompted state action)
    (taken : step state action = some (next, events)) :
    ∀ client ∈ next.clients, client.Staying := by
  cases action with
  | server =>
      cases serverStep_move taken with
      | reply _ found | forward _ _ _ found =>
          have before := staying _ (List.mem_of_getElem? found)
          exact staying_set staying before
      | receive | register | dismiss | broadcast | skip | finish =>
          exact staying
  | parent index line =>
      obtain ⟨client, later, after, found, moved, rfl⟩ :=
        State.moveClient_eq_some taken
      have before := staying _ (List.mem_of_getElem? found)
      exact staying_set staying (regular.stays found before moved)
  | child index =>
      obtain ⟨client, later, after, found, moved, rfl⟩ :=
        State.moveClient_eq_some taken
      have before := staying _ (List.mem_of_getElem? found)
      exact staying_set staying (childStep_stays before moved)
  | start | interruptParent | interruptChild => exact unprompted.elim

theorem not_blocked (staying : ∀ client ∈ state.clients, client.Staying) :
    ¬ state.Blocked := by
  rintro ⟨clientQ, _, client, found, deserted, _⟩
  obtain ⟨stays, _, alive⟩ := staying client (List.mem_of_getElem? found)
  rcases deserted with gone | ⟨exited, _⟩
  · exact alive gone
  · rw [Client.leaving, exited] at stays
    exact stays trivial

/-- Without anything new, the chat comes to rest with everything delivered, or
the server waits for ever on a queue that nobody reads. -/
theorem run_settles (run : system.Run initial trace state) :
    system.Inevitable Unprompted
        (fun later => later.Settled ∨ later.Blocked) state ∧
      ((∀ client ∈ state.clients, client.Staying) →
        system.Inevitable Unprompted State.Settled state) ∧
      (state.Settled → Complete trace state) := by
  refine ⟨?_, ?_, (run_regular run).complete⟩
  · refine Machine.inevitable_of_measure (fun reached => ∃ past,
      Regular past reached) State.effort ?_ ?_ ⟨trace, run_regular run⟩
    · rintro reached ⟨past, regular⟩ unfinished
      by_contra stuck
      exact unfinished (settled_or_blocked regular stuck)
    · rintro reached action next events ⟨past, regular⟩ unprompted taken
      exact ⟨⟨_, (step_move taken).regular regular⟩,
        step_effort regular.registered unprompted taken⟩
  · intro staying
    refine Machine.inevitable_of_measure (fun reached => ∃ past,
      Regular past reached ∧ ∀ client ∈ reached.clients, client.Staying)
      State.effort ?_ ?_ ⟨trace, run_regular run, staying⟩
    · rintro reached ⟨past, regular, staying⟩ unfinished
      by_contra stuck
      exact (settled_or_blocked regular stuck).elim unfinished
        (not_blocked staying)
    · rintro reached action next events ⟨past, regular, staying⟩ unprompted
        taken
      exact ⟨⟨_, (step_move taken).regular regular,
        regular.step_stays staying unprompted taken⟩,
        step_effort regular.registered unprompted taken⟩

end Runs

/-- Two clients, one of which has typed a line. -/
def spokenTo : State × List Event :=
  (system.execute (fun _ _ => True) initial (twoClients ++ speaking 0)).get
    (by decide)

theorem run_settles_spokenTo :
    system.Inevitable Unprompted State.Settled spokenTo.1 := by
  have run : system.Run initial spokenTo.2 spokenTo.1 :=
    Machine.execute_get_runWithin _
  exact (run_settles run).2.1 (by decide)

end SysOp.Lab4
