import SysOp.Lab4.Speech

/-!
# Replies to `MSG_INIT`

A client waits for one reply and is ready for a refusal, but the server has
none to send: a registration is answered by its very next step, and a client
for which there is no room waits for ever.
-/

namespace SysOp.Lab4

open SysOp.Foundation

/-- What is placed in the queue of a client, forwarded texts apart. -/
def replies (client : Nat) (trace : List Event) : List ChatMessage :=
  (placed client trace).filter fun msg => decide (msg.type ≠ .msgText)

/-- The ids given out by `MSG_ID_ASSIGN` replies. -/
def assignedIds (trace : List Event) : List Int :=
  trace.filterMap fun
    | .placed _ msg => if msg.type = .msgIdAssign then some msg.clientId else none
    | _ => none

/-- The server, now in state `next`, answers the client once, and from then on
its `mq_receive` can return. -/
structure Answered (clientQ : Nat) (next : State) : Prop where
  prompt : ∀ later after, system.Run next later after →
    replies clientQ later = [] →
    ∃ final events, step after .server = some (final, events) ∧
      replies clientQ events ≠ []
  once : ∀ later after, system.Run next later after →
    (replies clientQ later).length ≤ 1
  returns : ∀ later after client line, system.Run next later after →
    replies clientQ later ≠ [] → after.clients[clientQ]? = some client →
    client.parent = .awaitingReply →
    (step after (.parent clientQ line)).isSome

/-- The smallest id not given out yet. -/
def ServerPoint.nextId (point : ServerPoint) (activeClients : Nat) : Nat :=
  match point with
  | .replying _ newId => newId
  | _ => activeClients

structure Assigned (trace : List Event) (state : State) : Prop where
  distinct : (assignedIds trace).Nodup
  used : ∀ id ∈ assignedIds trace, ∃ newId : Nat,
    id = newId ∧ newId < state.point.nextId state.registry.activeClients

@[simp]
theorem assignedIds_append (earlier later : List Event) :
    assignedIds (earlier ++ later) = assignedIds earlier ++ assignedIds later :=
  List.filterMap_append

theorem others_texts_replies (newId : Nat) (messages : List ChatMessage) :
    (others newId (texts messages)).filter
      (fun msg => decide (msg.type ≠ .msgText)) = [] := by
  rw [List.filter_eq_nil_iff]
  intro msg membership
  have isText := (List.mem_filter.mp (List.mem_filter.mp membership).1).2
  simpa using isText

/-- Only the first of what a registered client is owed is a reply. -/
theorem owed_replies (newId : Nat) (since : List Event) :
    (owed newId since).filter (fun msg => decide (msg.type ≠ .msgText)) =
      [idAssign newId] := by
  rw [owed, List.filter_cons_of_pos (by simp [idAssign]),
    others_texts_replies]

/-- A reply is pending only just before it is sent. -/
theorem ServerPoint.replying_of_pending {point : ServerPoint}
    {client newId : Nat}
    (owes : (point.pending client newId).filter
      (fun msg => decide (msg.type ≠ .msgText)) ≠ []) :
    ∃ id, point = .replying client id := by
  cases point with
  | receiving => simp [pending] at owes
  | dispatching msg => exact absurd (others_texts_replies _ _) owes
  | replying clientQ id =>
      simp only [pending] at owes
      split at owes
      case isTrue same => exact ⟨id, by rw [same]⟩
      case isFalse => simp at owes
  | broadcasting msg i =>
      simp only [pending] at owes
      split at owes
      case isTrue => exact absurd (others_texts_replies _ _) owes
      case isFalse => simp at owes

section Ids

variable {trace events : List Event} {state next : State}

/-- No reply is sent, and no id is taken back. -/
theorem Assigned.frame (assigned : Assigned trace state)
    (silent : assignedIds events = [])
    (onward : state.point.nextId state.registry.activeClients ≤
      next.point.nextId next.registry.activeClients) :
    Assigned (trace ++ events) next where
  distinct := by
    rw [assignedIds_append, silent, List.append_nil]
    exact assigned.distinct
  used id membership := by
    rw [assignedIds_append, silent, List.append_nil] at membership
    obtain ⟨newId, same, below⟩ := assigned.used id membership
    exact ⟨newId, same, below.trans_le onward⟩

theorem Assigned.reply (assigned : Assigned trace state) {clientQ newId : Nat}
    (here : state.point = .replying clientQ newId)
    (active : newId < state.registry.activeClients) (clients : List Client) :
    Assigned (trace ++ [.placed clientQ (idAssign newId)])
      { state with clients, point := .receiving } := by
  have given : assignedIds [.placed clientQ (idAssign newId)] =
      [(newId : Int)] := by
    simp [assignedIds, idAssign]
  refine ⟨?_, ?_⟩
  · rw [assignedIds_append, given]
    refine List.concat_eq_append ▸ assigned.distinct.concat ?_
    intro membership
    obtain ⟨other, same, below⟩ := assigned.used _ membership
    simp only [here, ServerPoint.nextId] at below
    omega
  · intro id membership
    rw [assignedIds_append, given] at membership
    rcases List.mem_append.mp membership with old | new
    · obtain ⟨other, same, below⟩ := assigned.used id old
      simp only [here, ServerPoint.nextId] at below
      exact ⟨other, same, below.trans active⟩
    · exact ⟨newId, List.mem_singleton.mp new, active⟩

theorem ServerMove.assigned (move : ServerMove state next events)
    (registered : state.WellRegistered) (delivered : Delivered trace state)
    (assigned : Assigned trace state) : Assigned (trace ++ events) next := by
  have sound := delivered.sound
  cases move with
  | receive here | register here | dismiss here | broadcast here | skip here
  | finish here =>
      apply assigned.frame rfl
      simp [here, ServerPoint.nextId]
  | @reply clientQ newId client here found room =>
      rw [here] at sound
      have queue : state.registry.queue newId = some clientQ := sound
      have active := (registered.registry.queue_iff newId).mp (by simp [queue])
      exact assigned.reply here active _
  | forward here active target found room =>
      rw [here] at sound
      refine assigned.frame ?_ ?_
      · simp only [ServerPoint.Sound] at sound
        simp [assignedIds, sound]
      · simp [here, ServerPoint.nextId]

theorem Move.assigned (move : Move state next events)
    (registered : state.WellRegistered) (delivered : Delivered trace state)
    (assigned : Assigned trace state) : Assigned (trace ++ events) next := by
  cases move with
  | start fresh => exact assigned.frame rfl le_rfl
  | server moved => exact moved.assigned registered delivered assigned
  | client found moved =>
      refine assigned.frame ?_ le_rfl
      cases moved <;> rfl

end Ids

theorem initial_assigned : Assigned [] initial where
  distinct := List.nodup_nil
  used _ membership := absurd membership List.not_mem_nil

theorem run_assigned {allowed : State → Action → Prop} {trace : List Event}
    {state : State} (run : system.RunWithin allowed initial trace state) :
    Assigned trace state :=
  run_history run Assigned initial_assigned
    fun move registered delivered assigned =>
      move.assigned registered delivered assigned

section Replies

variable {trace later : List Event} {state after : State}
  {clientQ newId : Nat}

/-- What has been placed for a client that was registered between the two
traces. -/
theorem Delivered.newlyPaid (delivered : Delivered (trace ++ later) after)
    (silent : placed clientQ trace = [])
    (registered : registration clientQ (trace ++ later) = some (newId, later)) :
    placed clientQ later ++ after.point.pending clientQ newId =
      owed newId later := by
  have paid := delivered.paid clientQ newId later registered
  rwa [placed_append, silent, List.nil_append] at paid

theorem Delivered.newlyQueued (delivered : Delivered (trace ++ later) after)
    (silent : placed clientQ trace = []) :
    placed clientQ later =
      received clientQ (trace ++ later) ++ after.queueOf clientQ := by
  have fifo := delivered.fifo clientQ
  rwa [placed_append, silent, List.nil_append] at fifo

/-- Before the reply nothing else is placed, so there is room for it. -/
theorem Delivered.prompt (delivered : Delivered (trace ++ later) after)
    (known : after.WellRegistered) (silent : placed clientQ trace = [])
    (registered : registration clientQ (trace ++ later) = some (newId, later))
    (unanswered : replies clientQ later = []) :
    ∃ final events, step after .server = some (final, events) ∧
      replies clientQ events ≠ [] := by
  have paid := delivered.newlyPaid silent registered
  have nothing : placed clientQ later = [] := by
    cases there : placed clientQ later with
    | nil => rfl
    | cons head rest =>
        rw [there, owed, List.cons_append] at paid
        rw [replies, there, (List.cons.inj paid).1,
          List.filter_cons_of_pos (by simp [idAssign])] at unanswered
        cases unanswered
  obtain ⟨id, here⟩ : ∃ id, after.point = .replying clientQ id := by
    apply ServerPoint.replying_of_pending
    rw [nothing, List.nil_append] at paid
    rw [paid, owed_replies]
    exact List.cons_ne_nil _ _
  obtain ⟨client, found, _⟩ := known.known newId clientQ
    ((delivered.recorded clientQ newId).mpr ⟨later, registered⟩)
  have empty : client.queue = [] := by
    have queued := delivered.newlyQueued silent
    rw [nothing, State.queueOf_eq found] at queued
    exact (List.append_eq_nil_iff.mp queued.symm).2
  have sent : sendTo after.clients clientQ (idAssign id) =
      some (after.clients.set clientQ (client.enqueue (idAssign id))) :=
    sendTo_eq_some_iff.mpr ⟨client, found, by simp [empty], rfl⟩
  simp only [step, serverStep, here, sent, Option.map_some]
  refine ⟨_, _, rfl, ?_⟩
  simp [replies, idAssign]

theorem Delivered.once (delivered : Delivered (trace ++ later) after)
    (silent : placed clientQ trace = [])
    (registered : registration clientQ (trace ++ later) = some (newId, later)) :
    (replies clientQ later).length ≤ 1 := by
  have paid : placed clientQ later <+: owed newId later :=
    ⟨_, delivered.newlyPaid silent registered⟩
  have reply := (paid.filter fun msg => decide (msg.type ≠ .msgText)).length_le
  rwa [owed_replies] at reply

/-- A waiting client has received nothing, so its reply is still there. -/
theorem Delivered.returns (delivered : Delivered (trace ++ later) after)
    (spoken : Spoken (trace ++ later) after)
    (silent : placed clientQ trace = []) {client : Client}
    (answered : replies clientQ later ≠ [])
    (found : after.clients[clientQ]? = some client)
    (waiting : client.parent = .awaitingReply) (line : List Char) :
    (step after (.parent clientQ line)).isSome := by
  have informed := spoken.informed clientQ client found
  simp only [Client.Informed, waiting] at informed
  have queued := delivered.newlyQueued silent
  rw [informed.2, State.queueOf_eq found, List.nil_append] at queued
  cases there : client.queue with
  | nil =>
      rw [there] at queued
      simp [replies, queued] at answered
  | cons msg rest =>
      simp [step, State.moveClient, moveAt, found, parentStep, waiting, there,
        mqReceive]

end Replies

section Dispatch

variable {trace later events : List Event} {state next after : State}
  {msg : ChatMessage} {clientQ : Nat}

theorem answered_of_room (run : system.Run initial trace state)
    (here : state.point = .dispatching msg) (isInit : msg.type = .msgInit)
    (opened : mqOpen state.clients msg.queueName = some clientQ)
    (taken : step state .server = some (next, events))
    (room : state.registry.activeClients < MAX_CLIENTS) :
    Answered clientQ next := by
  have unrecorded := (run_delivered run).unrecorded (run_wellRegistered run)
    here isInit opened
  have silent := (run_delivered run).silent clientQ unrecorded
  have registers : events =
      [.registered state.registry.activeClients clientQ] := by
    simp only [step, serverStep, here, isInit, room, opened, if_true] at taken
    cases taken
    rfl
  have moved : system.step state .server = some (next, events) := taken
  have reached : system.Run initial (trace ++ events) next :=
    .tail run trivial moved
  have stillSilent : placed clientQ (trace ++ events) = [] := by
    rw [placed_append, silent, registers]
    rfl
  have registered : ∀ later, registration clientQ (trace ++ events ++ later) =
      some (state.registry.activeClients, later) := by
    intro later
    rw [registers]
    exact registration_append_of_some later
      (registration_registered_self _ unrecorded)
  refine ⟨?_, ?_, ?_⟩
  · intro later after onward unanswered
    have whole := reached.append onward
    exact (run_delivered whole).prompt (run_wellRegistered whole) stillSilent
      (registered later) unanswered
  · intro later after onward
    exact (run_delivered (reached.append onward)).once stillSilent
      (registered later)
  · intro later after client line onward answered found waiting
    have whole := reached.append onward
    exact (run_delivered whole).returns (run_spoken whole) stillSilent answered
      found waiting line

/-- A full registry stays as it is. -/
theorem Move.registry_of_full (move : Move state next events)
    (full : MAX_CLIENTS ≤ state.registry.activeClients) :
    next.registry = state.registry := by
  cases move with
  | start fresh => rfl
  | server moved =>
      cases moved with
      | register here isInit room opened => exact absurd room full.not_gt
      | _ => rfl
  | client found moved => rfl

theorem unanswered_of_full (run : system.Run initial trace state)
    (here : state.point = .dispatching msg) (isInit : msg.type = .msgInit)
    (opened : mqOpen state.clients msg.queueName = some clientQ)
    (taken : step state .server = some (next, events))
    (full : MAX_CLIENTS ≤ state.registry.activeClients)
    (onward : system.Run next later after) : replies clientQ later = [] := by
  have moved : system.step state .server = some (next, events) := taken
  have whole := (Machine.RunWithin.tail run trivial moved).append onward
  have kept : after.registry = state.registry := by
    refine onward.invariant (fun reached => reached.registry = state.registry)
      ((step_move taken).registry_of_full full) ?_
    intro reached action following placing same _ stepped
    rw [(step_move stepped).registry_of_full (same ▸ full), same]
  have unrecorded : registration clientQ (trace ++ events ++ later) = none := by
    cases found : registration clientQ (trace ++ events ++ later) with
    | none => rfl
    | some entry =>
        have queue := ((run_delivered whole).recorded clientQ entry.1).mpr
          ⟨entry.2, found⟩
        rw [kept] at queue
        exact absurd queue ((run_wellRegistered run).unregistered here isInit
          opened entry.1)
  have silent := (run_delivered whole).silent clientQ unrecorded
  rw [placed_append, List.append_eq_nil_iff] at silent
  rw [replies, silent.2, List.filter_nil]

theorem not_answered_of_full (run : system.Run initial trace state)
    (here : state.point = .dispatching msg) (isInit : msg.type = .msgInit)
    (opened : mqOpen state.clients msg.queueName = some clientQ)
    (taken : step state .server = some (next, events))
    (full : MAX_CLIENTS ≤ state.registry.activeClients) :
    ¬ Answered clientQ next := by
  intro answered
  obtain ⟨final, replying, replied, nonempty⟩ :=
    answered.prompt [] next (.refl next) rfl
  have moved : system.step next .server = some (final, replying) := replied
  have onward : system.Run next ([] ++ replying) final :=
    .tail (.refl next) trivial moved
  exact nonempty (unanswered_of_full run here isInit opened taken full onward)

end Dispatch

/-- The ids are distinct in every run, but a `MSG_INIT` is answered just when
there is room for its client; otherwise no reply ever follows. -/
theorem answered_iff_room {trace : List Event} {state : State}
    (run : system.Run initial trace state) :
    (assignedIds trace).Nodup ∧
    ∀ msg clientQ next events, state.point = .dispatching msg →
      msg.type = .msgInit →
      mqOpen state.clients msg.queueName = some clientQ →
      step state .server = some (next, events) →
      (Answered clientQ next ↔ state.registry.activeClients < MAX_CLIENTS) ∧
      (MAX_CLIENTS ≤ state.registry.activeClients →
        ∀ later after, system.Run next later after →
          replies clientQ later = []) := by
  refine ⟨(run_assigned run).distinct, ?_⟩
  intro msg clientQ next events here isInit opened taken
  refine ⟨⟨?_, ?_⟩, ?_⟩
  · intro answered
    by_contra room
    exact not_answered_of_full run here isInit opened taken
      (Nat.le_of_not_lt room) answered
  · intro room
    exact answered_of_room run here isInit opened taken room
  · intro full later after onward
    exact unanswered_of_full run here isInit opened taken full onward

/-- One more client is started than there is room for, and all of them sign
on; the `MSG_INIT` of the last one has just been consumed. -/
def crowd : List Action :=
  (List.finRange (MAX_CLIENTS + 1)).map
      (fun pid => .start (pid.castLE (by decide))) ++
    (List.range MAX_CLIENTS).flatMap registering ++
    List.replicate 2 (.parent MAX_CLIENTS []) ++ [.server]

def crowded : State × List Event :=
  (system.execute (fun _ _ => True) initial crowd).get (by decide +kernel)

/-- The same schedule up to the first `MSG_INIT`. -/
def uncrowded : State × List Event :=
  (system.execute (fun _ _ => True) initial (crowd.take (MAX_CLIENTS + 4))).get
    (by decide +kernel)

/-- `decide` can tell what the server is dispatching. -/
theorem State.dispatching_of_taken (state : State) (clientQ : Nat)
    (inits : state.point.taken.map ChatMessage.type = [.msgInit])
    (opens : state.point.taken.map (mqOpen state.clients ·.queueName) =
      [some clientQ]) :
    ∃ msg, state.point = .dispatching msg ∧ msg.type = .msgInit ∧
      mqOpen state.clients msg.queueName = some clientQ := by
  cases here : state.point with
  | dispatching msg =>
      simp only [here, ServerPoint.taken, List.map_cons, List.map_nil,
        List.cons.injEq, and_true] at inits opens
      exact ⟨msg, rfl, inits, opens⟩
  | _ => simp [here, ServerPoint.taken] at inits

theorem answered_iff_room_first :
    ∃ msg clientQ next events, uncrowded.1.point = .dispatching msg ∧
      mqOpen uncrowded.1.clients msg.queueName = some clientQ ∧
      step uncrowded.1 .server = some (next, events) ∧
      Answered clientQ next := by
  have run : system.Run initial uncrowded.2 uncrowded.1 :=
    Machine.execute_get_runWithin _
  obtain ⟨msg, here, isInit, opened⟩ :=
    State.dispatching_of_taken uncrowded.1 0
      (by decide +kernel) (by decide +kernel)
  have enabled : (step uncrowded.1 .server).isSome := by decide +kernel
  obtain ⟨⟨next, events⟩, taken⟩ := Option.isSome_iff_exists.mp enabled
  have answered := (answered_iff_room run).2 msg 0 next events here isInit
    opened taken
  exact ⟨msg, 0, next, events, here, opened, taken,
    answered.1.mpr (by decide +kernel)⟩

/-- The eleventh client is never answered. -/
theorem answered_crowded :
    ∃ (trace : List Event) (state next : State) (msg : ChatMessage)
      (events : List Event),
      system.Run initial trace state ∧ state.point = .dispatching msg ∧
        msg.type = .msgInit ∧
        mqOpen state.clients msg.queueName = some MAX_CLIENTS ∧
        step state .server = some (next, events) ∧
        (∀ later after, system.Run next later after →
          replies MAX_CLIENTS later = []) ∧
        ¬ Answered MAX_CLIENTS next := by
  have run : system.Run initial crowded.2 crowded.1 :=
    Machine.execute_get_runWithin _
  have full : MAX_CLIENTS ≤ crowded.1.registry.activeClients := by
    decide +kernel
  obtain ⟨msg, here, isInit, opened⟩ :=
    State.dispatching_of_taken crowded.1 MAX_CLIENTS
      (by decide +kernel) (by decide +kernel)
  have enabled : (step crowded.1 .server).isSome := by decide +kernel
  obtain ⟨⟨next, events⟩, taken⟩ := Option.isSome_iff_exists.mp enabled
  refine ⟨_, _, next, msg, events, run, here, isInit, opened, taken, ?_, ?_⟩
  · intro later after onward
    exact unanswered_of_full run here isInit opened taken full onward
  · exact not_answered_of_full run here isInit opened taken full

end SysOp.Lab4
