import SysOp.Lab4.Delivery

/-!
# What the clients send

A client signs its texts with the id it was assigned and sends them one by
one, so what the server has or will consume under that id is what its user
has typed, up to the text still in its hands.
-/

namespace SysOp.Lab4

open SysOp.Foundation

/-- The texts sent under an id. -/
def sentBy (newId : Nat) (messages : List ChatMessage) : List (List Char) :=
  ((texts messages).filter fun msg => decide (msg.clientId = (newId : Int))).map
    ChatMessage.text

/-- In `cleanup_handler`, or past it. -/
def Client.leaving (client : Client) : Prop :=
  match client.parent with
  | .unlinking | .killing | .exited => True
  | _ => False

/-- The text read but not yet sent. -/
def Client.draft (client : Client) : List (List Char) :=
  match client.parent with
  | .sending _ text => [text]
  | _ => []

/-- What is known of a client at each program point of its parent. -/
def Client.Informed (client : Client) (index : Nat) (trace : List Event) :
    Prop :=
  match client.parent with
  | .opening | .sendingInit | .awaitingReply =>
      client.child = .notForked ∧ received index trace = []
  | .forking myId | .reading myId | .sending myId _ =>
      ∃ newId since, registration index trace = some (newId, since) ∧
        myId = newId
  | .unlinking | .killing | .exited => True

/-- Everything sent to the server so far. -/
def State.log (state : State) (trace : List Event) : List ChatMessage :=
  consumed trace ++ state.serverQ

structure Spoken (trace : List Event) (state : State) : Prop where
  informed : ∀ (index : Nat) (client : Client),
    state.clients[index]? = some client → client.Informed index trace
  signed : ∀ msg ∈ texts (state.log trace), ∃ newId client,
    state.registry.queue newId = some client ∧ msg.clientId = newId
  mute : ∀ index, registration index trace = none → typed index trace = []
  sent : ∀ (index : Nat) (client : Client) (newId : Nat) (since : List Event),
    state.clients[index]? = some client →
    registration index trace = some (newId, since) →
    sentBy newId (state.log trace) <+: typed index trace ∧
      (¬ client.leaving →
        typed index trace = sentBy newId (state.log trace) ++ client.draft)

@[simp]
theorem sentBy_append (newId : Nat) (front back : List ChatMessage) :
    sentBy newId (front ++ back) = sentBy newId front ++ sentBy newId back := by
  simp [sentBy]

theorem sentBy_eq_nil {newId : Nat} {messages : List ChatMessage}
    (foreign : ∀ msg ∈ texts messages, msg.clientId ≠ newId) :
    sentBy newId messages = [] := by
  rw [sentBy, List.map_eq_nil_iff, List.filter_eq_nil_iff]
  intro msg membership
  simpa using foreign msg membership

theorem sentBy_eq_map {newId : Nat} {messages : List ChatMessage}
    (own : ∀ msg ∈ texts messages, msg.clientId = newId) :
    sentBy newId messages = (texts messages).map ChatMessage.text := by
  rw [sentBy, List.filter_eq_self.mpr]
  intro msg membership
  simpa using own msg membership

section Moves

variable {index : Nat} {serverQ after : List ChatMessage}
  {client moved : Client} {events : List Event}

/-- What one client move sends, in texts. -/
theorem ClientMove.speaks
    (move : ClientMove index serverQ client after moved events) :
    ∃ sent, after = serverQ ++ sent ∧
      (∀ msg ∈ texts sent,
        client.parent = .sending msg.clientId msg.text) ∧
      (typed index events ≠ [] → ∃ myId, client.parent = .reading myId) ∧
      (moved.leaving → texts sent = [] ∧ typed index events = []) ∧
      (¬ moved.leaving → ¬ client.leaving ∧
        (texts sent).map ChatMessage.text ++ moved.draft =
          client.draft ++ typed index events) := by
  cases move with
  | sendInit here room =>
      refine ⟨[client.initMsg], rfl, ?_⟩
      simp [texts, Client.initMsg, typed, Client.leaving, Client.draft, here]
  | @send myId text here room =>
      refine ⟨[Client.outMsg myId text], rfl, ?_⟩
      simp [texts, Client.outMsg, typed, Client.leaving, Client.draft, here]
  | interruptParent =>
      refine ⟨[], by simp, ?_⟩
      simp [texts, typed, Client.leaving]
  | receive | childUnlink | interruptChild =>
      refine ⟨[], by simp, ?_⟩
      simp [texts, typed, Client.leaving, Client.draft]
  | create here | assigned here | refused here | fork here | readEmpty here
  | read here | unlink here | kill here =>
      refine ⟨[], by simp, ?_⟩
      simp [texts, typed, Client.leaving, Client.draft, here]

theorem ClientMove.typed_other
    (move : ClientMove index serverQ client after moved events) (other : Nat)
    (different : other ≠ index) : typed other events = [] := by
  cases move with
  | read here => simp [Ne.symm different]
  | _ => rfl

end Moves

section Server

variable {trace events : List Event} {state next : State}

theorem Client.Informed.registered {client : Client} {index : Nat}
    (informed : client.Informed index trace) {myId : Int}
    (here : client.parent = .reading myId ∨
      ∃ text, client.parent = .sending myId text) :
    ∃ newId since, registration index trace = some (newId, since) ∧
      myId = newId := by
  rcases here with here | ⟨text, here⟩ <;>
    simpa [Client.Informed, here] using informed

theorem Client.Informed.draft {client : Client} {index : Nat}
    (informed : client.Informed index trace)
    (unregistered : registration index trace = none) : client.draft = [] := by
  unfold Client.draft
  split
  case h_1 myId text here =>
    obtain ⟨newId, since, found, _⟩ := informed.registered (.inr ⟨text, here⟩)
    simp [unregistered] at found
  case h_2 => rfl

theorem Client.Informed.later {client after : Client} {index : Nat}
    (informed : client.Informed index trace)
    (sameParent : after.parent = client.parent)
    (sameChild : after.child = client.child)
    (unread : received index events = []) :
    after.Informed index (trace ++ events) := by
  unfold Client.Informed at informed ⊢
  rw [sameParent, sameChild]
  split <;> simp_all
  all_goals
    obtain ⟨newId, ⟨since, found⟩, rfl⟩ := informed
    exact ⟨newId, ⟨_, registration_append_of_some _ found⟩, rfl⟩

/-- Nothing a client does or sees has changed, but one that has said nothing
may have been registered under an unused id. -/
theorem Spoken.frame (spoken : Spoken trace state)
    (sameClients : ∀ (index : Nat) (after : Client),
      next.clients[index]? = some after →
      ∃ client, state.clients[index]? = some client ∧
        after.parent = client.parent ∧ after.child = client.child)
    (sameLog : next.log (trace ++ events) = state.log trace)
    (unread : ∀ index, received index events = [])
    (untyped : ∀ index, typed index events = [])
    (older : ∀ newId client, state.registry.queue newId = some client →
      next.registry.queue newId = some client)
    (newer : ∀ index newId since,
      registration index (trace ++ events) = some (newId, since) →
      (∃ before, registration index trace = some (newId, before)) ∨
        (registration index trace = none ∧
          state.registry.queue newId = none)) :
    Spoken (trace ++ events) next where
  informed index after found := by
    obtain ⟨client, before, parent, child⟩ := sameClients index after found
    exact (spoken.informed index client before).later parent child
      (unread index)
  signed msg membership := by
    rw [sameLog] at membership
    obtain ⟨newId, client, queue, signature⟩ := spoken.signed msg membership
    exact ⟨newId, client, older newId client queue, signature⟩
  mute index unregistered := by
    have before : registration index trace = none := by
      cases found : registration index trace with
      | none => rfl
      | some entry =>
          rw [registration_append_of_some _ found] at unregistered
          cases unregistered
    rw [typed_append, spoken.mute index before, untyped index, List.nil_append]
  sent index after newId since found registered := by
    obtain ⟨client, before, parent, _⟩ := sameClients index after found
    have sameLeaving : after.leaving ↔ client.leaving := by
      simp only [Client.leaving, parent]
    have sameDraft : after.draft = client.draft := by
      simp only [Client.draft, parent]
    rw [sameLog, typed_append, untyped index, List.append_nil, sameLeaving,
      sameDraft]
    rcases newer index newId since registered with ⟨earlier, known⟩ |
      ⟨unknown, vacant⟩
    · exact spoken.sent index client newId earlier before known
    · have nothing : sentBy newId (state.log trace) = [] := by
        apply sentBy_eq_nil
        intro msg membership same
        obtain ⟨other, sender, queue, signature⟩ :=
          spoken.signed msg membership
        have equal : other = newId := by
          rw [signature] at same
          exact_mod_cast same
        rw [equal, vacant] at queue
        cases queue
      have noDraft := (spoken.informed index client before).draft unknown
      simp [nothing, noDraft, spoken.mute index unknown]

theorem ServerMove.log (move : ServerMove state next events) :
    next.log (trace ++ events) = state.log trace := by
  cases move with
  | receive here queued => simp [State.log, consumed, queued]
  | _ => simp [State.log, consumed]

theorem ServerMove.clients (move : ServerMove state next events) {index : Nat}
    {after : Client} (found : next.clients[index]? = some after) :
    ∃ client, state.clients[index]? = some client ∧
      after.parent = client.parent ∧ after.child = client.child := by
  cases move with
  | reply here there room | forward here active target there room =>
      rcases getElem?_set_cases found with ⟨rfl, rfl⟩ | ⟨_, same⟩
      · exact ⟨_, there, rfl, rfl⟩
      · exact ⟨after, same, rfl, rfl⟩
  | _ => exact ⟨after, found, rfl, rfl⟩

theorem ServerMove.spoken (move : ServerMove state next events)
    (registered : state.WellRegistered) (spoken : Spoken trace state) :
    Spoken (trace ++ events) next := by
  refine spoken.frame (fun _ _ => move.clients) move.log ?_ ?_ ?_ ?_
  · intro index
    cases move <;> rfl
  · intro index
    cases move <;> rfl
  · intro newId client queue
    cases move with
    | register here isInit room opened =>
        rw [Registry.queue_register room]
        split
        case isTrue new =>
          have active := (registered.registry.queue_iff newId).mp (by simp [queue])
          omega
        case isFalse => exact queue
    | _ => exact queue
  · intro index newId since found
    cases before : registration index trace with
    | some entry =>
        rw [registration_append_of_some _ before] at found
        cases found
        exact .inl ⟨entry.2, rfl⟩
    | none =>
        rw [registration_append_of_none _ before] at found
        refine .inr ⟨rfl, ?_⟩
        cases move with
        | register here isInit room opened =>
            simp only [registration] at found
            split at found
            case isTrue =>
              cases found
              exact registered.registry.vacant
            case isFalse => cases found
        | _ => cases found

end Server

section Client

variable {trace events : List Event} {state : State} {index : Nat}
  {client after : Client} {serverQ : List ChatMessage}

/-- A waiting client is answered with the id it is registered under. -/
theorem Delivered.answered (delivered : Delivered trace state)
    (found : state.clients[index]? = some client)
    (unread : received index trace = []) {msg : ChatMessage}
    {rest : List ChatMessage} (queued : client.queue = msg :: rest) :
    ∃ newId since, registration index trace = some (newId, since) ∧
      msg = idAssign newId := by
  have fifo := delivered.fifo index
  rw [unread, State.queueOf_eq found, queued, List.nil_append] at fifo
  cases registered : registration index trace with
  | none =>
      rw [delivered.silent index registered] at fifo
      cases fifo
  | some entry =>
      have paid := delivered.paid index entry.1 entry.2 registered
      rw [fifo, owed, List.cons_append] at paid
      exact ⟨entry.1, entry.2, rfl, (List.cons.inj paid).1⟩

theorem Client.Informed.forked (informed : client.Informed index trace)
    (forked : client.child ≠ .notForked)
    (sameParent : after.parent = client.parent) :
    after.Informed index (trace ++ events) := by
  unfold Client.Informed at informed ⊢
  rw [sameParent]
  split <;> simp_all
  all_goals
    obtain ⟨newId, ⟨since, found⟩, rfl⟩ := informed
    exact ⟨newId, ⟨_, registration_append_of_some _ found⟩, rfl⟩

theorem Client.Informed.moved (informed : client.Informed index trace)
    (delivered : Delivered trace state)
    (found : state.clients[index]? = some client)
    (moved : ClientMove index state.serverQ client serverQ after events) :
    after.Informed index (trace ++ events) := by
  have carried : ∀ {myId : Int},
      (∃ newId since, registration index trace = some (newId, since) ∧
        myId = newId) →
      ∃ newId since,
        registration index (trace ++ events) = some (newId, since) ∧
          myId = newId := by
    rintro myId ⟨newId, since, known, same⟩
    exact ⟨newId, _, registration_append_of_some _ known, same⟩
  cases moved with
  | create here | sendInit here =>
      simpa [Client.Informed, here] using informed
  | assigned here queued accepted =>
      have unread : received index trace = [] := by
        simp only [Client.Informed, here] at informed
        exact informed.2
      obtain ⟨newId, since, known, rfl⟩ :=
        delivered.answered found unread queued
      exact carried ⟨newId, since, known, rfl⟩
  | fork here =>
      exact carried (by simpa [Client.Informed, here] using informed)
  | readEmpty here =>
      simp only [Client.Informed, here] at informed ⊢
      exact carried informed
  | read here | send here =>
      exact carried (by simpa [Client.Informed, here] using informed)
  | receive there | childUnlink there | interruptChild there =>
      exact informed.forked (by simp [there]) rfl
  | refused | unlink | kill | interruptParent => trivial

/-- Every text carries the id a client is registered under. -/
def SignedBy (index : Nat) (trace : List Event) (messages : List ChatMessage) :
    Prop :=
  ∀ msg ∈ texts messages, ∃ newId since,
    registration index trace = some (newId, since) ∧ msg.clientId = newId

theorem SignedBy.own {messages : List ChatMessage} {newId : Nat}
    {since : List Event} (signed : SignedBy index trace messages)
    (known : registration index trace = some (newId, since)) :
    sentBy newId messages = (texts messages).map ChatMessage.text := by
  apply sentBy_eq_map
  intro msg membership
  obtain ⟨ownId, before, found, signature⟩ := signed msg membership
  rw [known] at found
  cases found
  exact signature

theorem SignedBy.other {messages : List ChatMessage} {other newId : Nat}
    {since : List Event} (signed : SignedBy index trace messages)
    (delivered : Delivered trace state)
    (known : registration other trace = some (newId, since))
    (different : other ≠ index) : sentBy newId messages = [] := by
  apply sentBy_eq_nil
  intro msg membership same
  obtain ⟨ownId, before, found, signature⟩ := signed msg membership
  have equal : ownId = newId := by
    rw [signature] at same
    exact_mod_cast same
  subst equal
  exact different (delivered.registration_inj known found)

theorem Spoken.moveClient (spoken : Spoken trace state)
    (delivered : Delivered trace state)
    (found : state.clients[index]? = some client)
    (moved : ClientMove index state.serverQ client serverQ after events) :
    Spoken (trace ++ events)
      { state with serverQ, clients := state.clients.set index after } := by
  obtain ⟨nothing, unheard⟩ := moved.unheard
  obtain ⟨sent, rfl, signature, reading, silenced, speaking⟩ := moved.speaks
  have informed := spoken.informed index client found
  have log : State.log { state with
      serverQ := state.serverQ ++ sent
      clients := state.clients.set index after } (trace ++ events) =
        state.log trace ++ sent := by
    simp [State.log, nothing]
  have signed : SignedBy index trace sent := by
    intro msg membership
    exact informed.registered (.inr ⟨msg.text, signature msg membership⟩)
  refine ⟨?_, ?_, ?_, ?_⟩
  · intro other process there
    rcases getElem?_set_cases there with ⟨rfl, rfl⟩ | ⟨different, same⟩
    · exact informed.moved delivered found moved
    · exact (spoken.informed other process same).later rfl rfl
        (moved.takes.2 other different)
  · intro msg membership
    rw [log, texts_append] at membership
    rcases List.mem_append.mp membership with old | new
    · exact spoken.signed msg old
    · obtain ⟨newId, since, known, same⟩ := signed msg new
      exact ⟨newId, index, (delivered.recorded index newId).mpr ⟨since, known⟩,
        same⟩
  · intro other unregistered
    rw [registration_append_quiet _ (unheard other).2,
      Option.map_eq_none_iff] at unregistered
    rw [typed_append, spoken.mute other unregistered, List.nil_append]
    by_cases same : other = index
    · subst same
      by_contra saying
      obtain ⟨myId, here⟩ := reading saying
      obtain ⟨newId, since, known, _⟩ := informed.registered (.inl here)
      simp [unregistered] at known
    · exact moved.typed_other other same
  · intro other process newId since there known
    rw [registration_append_quiet _ (unheard other).2,
      Option.map_eq_some_iff] at known
    obtain ⟨⟨ownId, before⟩, known, same⟩ := known
    obtain ⟨rfl, rfl⟩ := Prod.mk.inj same
    rw [log, sentBy_append, typed_append]
    rcases getElem?_set_cases there with ⟨rfl, rfl⟩ | ⟨different, present⟩
    · obtain ⟨initial, equal⟩ := spoken.sent other client ownId before found known
      rw [signed.own known]
      by_cases leaving : process.leaving
      · obtain ⟨unsent, untyped⟩ := silenced leaving
        simp [unsent, untyped, leaving, initial]
      · obtain ⟨staying, balance⟩ := speaking leaving
        have total := equal staying
        rw [total, List.append_assoc, ← balance, ← List.append_assoc]
        exact ⟨List.prefix_append _ _, fun _ => rfl⟩
    · rw [signed.other delivered known different,
        moved.typed_other other different, List.append_nil, List.append_nil]
      exact spoken.sent other process ownId before present known

end Client

section Runs

variable {trace events : List Event} {state next : State}

theorem Spoken.start (spoken : Spoken trace state)
    (delivered : Delivered trace state) (registered : state.WellRegistered)
    (pid : Pid) :
    Spoken (trace ++ [])
      { state with clients := state.clients ++ [.start pid] } := by
  have unknown : registration state.clients.length trace = none := by
    cases found : registration state.clients.length trace with
    | none => rfl
    | some entry =>
        have queue := (delivered.recorded _ entry.1).mpr ⟨entry.2, found⟩
        obtain ⟨client, there, _⟩ := registered.known entry.1 _ queue
        simp at there
  rw [List.append_nil]
  refine ⟨?_, spoken.signed, spoken.mute, ?_⟩
  · intro index client found
    rcases getElem?_append_cases found with old | ⟨rfl, rfl⟩
    · exact spoken.informed index client old
    · have fifo := delivered.fifo state.clients.length
      rw [delivered.silent _ unknown] at fifo
      exact ⟨rfl, (List.append_eq_nil_iff.mp fifo.symm).1⟩
  · intro index client newId since found known
    rcases getElem?_append_cases found with old | ⟨rfl, rfl⟩
    · exact spoken.sent index client newId since old known
    · rw [unknown] at known
      cases known

theorem Move.spoken (move : Move state next events)
    (registered : state.WellRegistered) (delivered : Delivered trace state)
    (spoken : Spoken trace state) : Spoken (trace ++ events) next := by
  cases move with
  | start fresh => exact spoken.start delivered registered _
  | server moved => exact moved.spoken registered spoken
  | client found moved => exact spoken.moveClient delivered found moved

end Runs

theorem initial_spoken : Spoken [] initial := by
  refine ⟨?_, ?_, fun _ _ => rfl, ?_⟩
  · simp [initial]
  · simp [State.log, consumed, initial, texts]
  · simp [initial]

theorem run_spoken {allowed : State → Action → Prop}
    {trace : List Event} {state : State}
    (run : system.RunWithin allowed initial trace state) :
    Spoken trace state :=
  run_history run Spoken initial_spoken
    fun move registered delivered spoken =>
      move.spoken registered delivered spoken

end SysOp.Lab4
