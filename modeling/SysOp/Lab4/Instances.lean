import SysOp.Foundation.Projection
import SysOp.Lab4.Restarts
import SysOp.Lab4.Settling

/-!
# Every server has a chat of its own

As long as no two servers start at the same time, each of them with the clients
that have opened its queue is the chat of one server, whatever comes before and
after it.
-/

namespace SysOp.Lab4

open SysOp.Foundation

namespace Restarts

/-- The clients as the server of this queue knows them. -/
def members (serverQ : Nat) (opened : Nat → Option Nat)
    (clients : List Client) : List Client :=
  clients.mapIdx fun index client =>
    if opened index = some serverQ then client else .start client.pid

def Server.unlinks : Server → Bool
  | .unlinking => true
  | _ => false

def Server.opens : Server → Bool
  | .opening => true
  | _ => false

/-- No server unlinks the name while another one is about to make its queue. -/
def Apart (world : World) : Action → Prop
  | .server index => world.servers[index]?.any Server.unlinks →
      ∀ other ∈ world.servers, ¬ other.opens
  | _ => True

structure Represents (serverQ : Nat) (world : World) (chat : State) :
    Prop where
  queue : chat.serverQ = world.queues.read [] serverQ
  clients : chat.clients = members serverQ world.opened world.clients
  server : ∀ (index : Nat) registry point,
    world.servers[index]? = some (.serving serverQ registry point) →
    chat.registry = registry ∧ chat.point = point
  fresh : ¬ world.queues.Made serverQ →
    chat.registry = .initial ∧ chat.point = .receiving

/-- Who has opened what. -/
structure Valid (world : World) : Prop where
  sound : world.queues.Sound
  made : ∀ (index : Nat) serverQ registry point,
    world.servers[index]? = some (.serving serverQ registry point) →
    world.queues.Made serverQ
  single : ∀ (first second : Nat) serverQ registry point registry' point',
    world.servers[first]? = some (.serving serverQ registry point) →
    world.servers[second]? = some (.serving serverQ registry' point') →
    first = second
  alone : ∀ first second : Nat, world.servers[first]? = some .opening →
    world.servers[second]? = some .opening → first = second
  unnamed : .opening ∈ world.servers → world.queues.current = none
  pids : (world.clients.map Client.pid).Nodup
  present : ∀ (index serverQ : Nat), world.opened index = some serverQ →
    index < world.clients.length ∧ world.queues.Made serverQ
  detached : ∀ (index : Nat) (client : Client),
    world.clients[index]? = some client → world.opened index = none →
    client.queue = [] ∧ client.child = .notForked

section Members

variable {serverQ index : Nat} {opened : Nat → Option Nat}
  {clients : List Client} {client after : Client}

theorem getElem?_members (place : Nat) :
    (members serverQ opened clients)[place]? =
      clients[place]?.map fun client =>
        if opened place = some serverQ then client else .start client.pid :=
  List.getElem?_mapIdx

theorem members_of_ne (other : opened index ≠ some serverQ)
    (found : clients[index]? = some client) :
    (members serverQ opened clients)[index]? = some (.start client.pid) := by
  rw [getElem?_members, found, Option.map_some, if_neg other]

theorem members_of_eq (own : opened index = some serverQ)
    (found : clients[index]? = some client) :
    (members serverQ opened clients)[index]? = some client := by
  rw [getElem?_members, found, Option.map_some, if_pos own]

theorem pids_members :
    (members serverQ opened clients).map Client.pid =
      clients.map Client.pid := by
  apply List.ext_getElem?
  intro place
  rw [List.getElem?_map, getElem?_members, List.getElem?_map]
  cases clients[place]? with
  | none => rfl
  | some client =>
      simp only [Option.map_some]
      split <;> rfl

/-- A step of one of them. -/
theorem members_set_self (own : opened index = some serverQ) :
    members serverQ opened (clients.set index after) =
      (members serverQ opened clients).set index after := by
  apply List.ext_getElem?
  intro place
  rw [getElem?_members, List.getElem?_set, List.getElem?_set]
  by_cases same : index = place
  · subst same
    simp only [if_true, own, members, List.length_mapIdx]
    split <;> rfl
  · rw [if_neg same, if_neg same, getElem?_members]

/-- A step of somebody else. -/
theorem members_set_of_ne (other : opened index ≠ some serverQ)
    (found : clients[index]? = some client) (pid : after.pid = client.pid) :
    members serverQ opened (clients.set index after) =
      members serverQ opened clients := by
  apply List.ext_getElem?
  intro place
  rw [getElem?_members, getElem?_members]
  by_cases same : index = place
  · subst same
    obtain ⟨inside, _⟩ := List.getElem?_eq_some_iff.mp found
    rw [List.getElem?_set_self inside, found, Option.map_some, Option.map_some,
      if_neg other, if_neg other, pid]
  · rw [List.getElem?_set_ne same]

/-- To open a queue matters for its server only. -/
theorem members_update {queue : Option Nat} (apart : opened index ≠ some serverQ)
    (found : clients[index]? = some client) (pid : after.pid = client.pid) :
    members serverQ (Function.update opened index queue)
        (clients.set index after) =
      if queue = some serverQ then
        (members serverQ opened clients).set index after
      else members serverQ opened clients := by
  have others {place : Nat} (different : index ≠ place) :
      (members serverQ (Function.update opened index queue)
          (clients.set index after))[place]? =
        (members serverQ opened clients)[place]? := by
    rw [getElem?_members, getElem?_members, List.getElem?_set_ne different,
      Function.update_of_ne different.symm]
  obtain ⟨inside, _⟩ := List.getElem?_eq_some_iff.mp found
  apply List.ext_getElem?
  intro place
  by_cases same : index = place
  · subst same
    rw [getElem?_members, List.getElem?_set_self inside, Option.map_some,
      Function.update_self]
    split
    · rw [List.getElem?_set_self (by rwa [members, List.length_mapIdx])]
    · rw [members_of_ne apart found, pid]
  · rw [others same]
    split
    · rw [List.getElem?_set_ne same]
    · rfl

theorem members_concat (nobody : opened clients.length ≠ some serverQ)
    (pid : Pid) :
    members serverQ opened (clients ++ [.start pid]) =
      members serverQ opened clients ++ [.start pid] := by
  rw [members, List.mapIdx_concat, if_neg nobody]
  rfl

end Members

section Names

variable {clients : List Client} {name : QueueName} {index : Nat}

/-- A name leads to the client that has it. -/
theorem mqOpen_of_found (pids : (clients.map Client.pid).Nodup)
    {client : Client} (found : clients[index]? = some client)
    (linked : client.linked = true) (same : clientQName client.pid = name) :
    mqOpen clients name = some index := by
  cases opened : mqOpen clients name with
  | none =>
      rw [mqOpen, List.findIdx?_eq_none_iff] at opened
      have never := opened client (List.mem_of_getElem? found)
      simp [linked, same] at never
  | some place =>
      obtain ⟨other, there, _, also⟩ := mqOpen_eq_some opened
      have one := clientQName_injective (also.trans same.symm)
      obtain ⟨inside, _⟩ := List.getElem?_eq_some_iff.mp there
      have equal := (List.getElem?_inj (by simpa using inside) pids).mp
        (show (clients.map Client.pid)[place]? =
          (clients.map Client.pid)[index]? by simp [there, found, one])
      rw [equal]

end Names

section Serving

variable {world : World} {serverQ : Nat} {chat after : State}
  {events : List Lab4.Event}

/-- Only members have done anything. -/
theorem Represents.opened (represents : Represents serverQ world chat)
    {index : Nat} {client : Client}
    (found : chat.clients[index]? = some client)
    (active : client.unsent = 0 ∨ client.linked = true) :
    world.opened index = some serverQ ∧
      world.clients[index]? = some client := by
  rw [represents.clients, getElem?_members, Option.map_eq_some_iff] at found
  obtain ⟨own, there, same⟩ := found
  split at same
  case isTrue member =>
    subst same
    exact ⟨member, there⟩
  case isFalse =>
    subst same
    rcases active with sent | linked
    · cases sent
    · cases linked

/-- Whom the registry knows is a member. -/
theorem Represents.known (represents : Represents serverQ world chat)
    (registered : chat.WellRegistered) {i clientQ : Nat}
    (queue : chat.registry.queue i = some clientQ) :
    world.opened clientQ = some serverQ := by
  obtain ⟨client, found, nothing⟩ := registered.known i clientQ queue
  rw [State.requests, Nat.add_eq_zero_iff] at nothing
  exact (represents.opened found (.inl nothing.2)).1

/-- Who asks to be registered is a member. -/
theorem Represents.asking (represents : Represents serverQ world chat)
    (registered : chat.WellRegistered)
    (pids : (world.clients.map Client.pid).Nodup) {msg : ChatMessage}
    (here : chat.point = .dispatching msg) (isInit : msg.type = .msgInit)
    {clientQ : Nat}
    (opened : mqOpen world.clients msg.queueName = some clientQ) :
    world.opened clientQ = some serverQ := by
  have taken : msg ∈ chat.inFlight := by
    rw [State.inFlight, here]
    exact List.mem_append_left _ (List.mem_singleton_self _)
  obtain ⟨client, member, name⟩ := registered.named msg taken isInit
  obtain ⟨index, found⟩ := List.getElem?_of_mem member
  have once := registered.once index client found
  have asked : 0 < initsOf (clientQName client.pid) chat.inFlight :=
    List.countP_pos_iff.mpr ⟨msg, taken, by simp [isInit, name]⟩
  rw [State.requests] at once
  obtain ⟨own, there⟩ := represents.opened found (.inl (by omega))
  obtain ⟨other, found', _, also⟩ := mqOpen_eq_some opened
  have one := clientQName_injective (also.trans name)
  obtain ⟨inside, _⟩ := List.getElem?_eq_some_iff.mp found'
  have equal := (List.getElem?_inj (by simpa using inside) pids).mp
    (show (world.clients.map Client.pid)[clientQ]? =
      (world.clients.map Client.pid)[index]? by simp [found', there, one])
  rw [equal]
  exact own

/-- What the server does to the clients of the world. -/
theorem Represents.placed (represents : Represents serverQ world chat)
    (registered : chat.WellRegistered)
    (sound : chat.point.Sound chat.registry)
    (move : Lab4.ServerMove (world.chat serverQ chat.registry chat.point) after
      events) :
    after.clients = world.clients ∨
      ∃ clientQ client msg, world.opened clientQ = some serverQ ∧
        world.clients[clientQ]? = some client ∧
        after.clients = world.clients.set clientQ (client.enqueue msg) := by
  cases move with
  | @reply clientQ newId client here found =>
      have here : chat.point = .replying clientQ newId := here
      rw [here] at sound
      exact .inr ⟨_, _, _, represents.known registered sound, found, rfl⟩
  | forward here active target found =>
      exact .inr ⟨_, _, _, represents.known registered
        (Registry.queue_of_target target).1, found, rfl⟩
  | receive | register | dismiss | broadcast | skip | finish => exact .inl rfl

/-- The server serves its members as if there were nobody else. -/
theorem Represents.serverStep (represents : Represents serverQ world chat)
    (registered : chat.WellRegistered)
    (sound : chat.point.Sound chat.registry)
    (pids : (world.clients.map Client.pid).Nodup)
    (move : Lab4.ServerMove (world.chat serverQ chat.registry chat.point) after
      events) :
    Lab4.serverStep chat = some
      ({ after with clients := members serverQ world.opened after.clients },
        events) := by
  have queue := represents.queue
  have clients := represents.clients
  cases move with
  | @receive msg rest here queued =>
      have here : chat.point = .receiving := here
      have queued : chat.serverQ = msg :: rest := queue.trans queued
      simp [Lab4.serverStep, here, queued, mqReceive, World.chat, ← clients]
  | @register msg clientQ here isInit room opened =>
      have here : chat.point = .dispatching msg := here
      have own := represents.asking registered pids here isInit opened
      obtain ⟨client, found, linked, name⟩ := mqOpen_eq_some opened
      have same : mqOpen chat.clients msg.queueName = some clientQ := by
        rw [clients]
        exact mqOpen_of_found (by rwa [pids_members]) (members_of_eq own found)
          linked name
      have room : chat.registry.activeClients < MAX_CLIENTS := room
      simp [Lab4.serverStep, here, isInit, room, same, World.chat, ← clients,
        ← queue]
  | @dismiss msg here notText refused =>
      have here : chat.point = .dispatching msg := here
      have again : msg.type = .msgInit →
          MAX_CLIENTS ≤ chat.registry.activeClients ∨
            mqOpen chat.clients msg.queueName = none := by
        intro isInit
        refine (refused isInit).imp id fun missing => ?_
        cases opened : mqOpen chat.clients msg.queueName with
        | none => rfl
        | some clientQ =>
            obtain ⟨client, found, linked, name⟩ := mqOpen_eq_some opened
            have there := (represents.opened found (.inr linked)).2
            have also : mqOpen world.clients msg.queueName = some clientQ :=
              mqOpen_of_found pids there linked name
            exact absurd (missing.symm.trans also) (by simp)
      cases type : msg.type with
      | msgInit =>
          rcases again type with full | missing
          · simp [Lab4.serverStep, here, type, Nat.not_lt.mpr full,
              World.chat, ← clients, ← queue]
          · simp [Lab4.serverStep, here, type, missing, World.chat, ← clients,
              ← queue]
      | msgText => exact absurd type notText
      | msgIdAssign | unknown =>
          simp [Lab4.serverStep, here, type, World.chat, ← clients, ← queue]
  | @broadcast msg here isText =>
      have here : chat.point = .dispatching msg := here
      simp [Lab4.serverStep, here, isText, World.chat, ← clients, ← queue]
  | @reply clientQ newId client here found room =>
      have here : chat.point = .replying clientQ newId := here
      rw [here] at sound
      have own := represents.known registered sound
      have there : chat.clients[clientQ]? = some client :=
        clients ▸ members_of_eq own found
      have sent := sendTo_eq_some_iff.mpr
        ⟨client, there, room, (rfl : _ = chat.clients.set clientQ
          (client.enqueue (idAssign newId)))⟩
      simp [Lab4.serverStep, here, sent, World.chat, members_set_self own,
        ← clients, ← queue]
  | @forward msg i clientQ client here active target found room =>
      have here : chat.point = .broadcasting msg i := here
      have active : i < chat.registry.activeClients := active
      have target : chat.registry.target msg i = some clientQ := target
      have own := represents.known registered
        (Registry.queue_of_target target).1
      have there : chat.clients[clientQ]? = some client :=
        clients ▸ members_of_eq own found
      have sent := sendTo_eq_some_iff.mpr
        ⟨client, there, room, (rfl : _ = chat.clients.set clientQ
          (client.enqueue msg))⟩
      simp [Lab4.serverStep, here, active, target, sent, World.chat,
        members_set_self own, ← clients, ← queue]
  | @skip msg i here active target =>
      have here : chat.point = .broadcasting msg i := here
      have active : i < chat.registry.activeClients := active
      have target : chat.registry.target msg i = none := target
      simp [Lab4.serverStep, here, active, target, World.chat, ← clients,
        ← queue]
  | @finish msg i here past =>
      have here : chat.point = .broadcasting msg i := here
      have past : ¬ i < chat.registry.activeClients := past
      simp [Lab4.serverStep, here, past, World.chat, ← clients, ← queue]

end Serving

section Steps

variable {world next : World} {serverQ : Nat} {chat : State} {action : Action}
  {events : List Event}

/-- Steps that the chat does not notice. -/
theorem Represents.frame (represents : Represents serverQ world chat)
    (queue : next.queues.read [] serverQ = world.queues.read [] serverQ)
    (clients : members serverQ next.opened next.clients =
      members serverQ world.opened world.clients)
    (servers : ∀ (index : Nat) registry point,
      next.servers[index]? = some (.serving serverQ registry point) →
      world.servers[index]? = some (.serving serverQ registry point))
    (made : world.queues.Made serverQ → next.queues.Made serverQ) :
    Represents serverQ next chat where
  queue := represents.queue.trans queue.symm
  clients := represents.clients.trans clients.symm
  server index registry point found :=
    represents.server index registry point (servers index registry point found)
  fresh unmade := represents.fresh fun before => unmade (made before)

/-- A server that does not serve takes a place. -/
theorem Represents.stop (represents : Represents serverQ world chat)
    {queues : Named (List ChatMessage)} {place : Nat} {after : Server}
    (same : queues.read [] serverQ = world.queues.read [] serverQ)
    (made : world.queues.Made serverQ → queues.Made serverQ)
    (idle : ∀ queue registry point, after ≠ .serving queue registry point) :
    Represents serverQ
      { world with queues, servers := world.servers.set place after } chat := by
  refine represents.frame same rfl ?_ made
  intro index registry point there
  rcases getElem?_set_cases there with ⟨_, new⟩ | ⟨_, old⟩
  · exact absurd new.symm (idle serverQ registry point)
  · exact old

theorem detachedStep_keeps {current serverQ : Option Nat}
    {client after : Client}
    (moved : detachedStep current client = some (serverQ, after)) :
    after.pid = client.pid ∧ after.queue = client.queue ∧
      after.child = client.child := by
  unfold detachedStep at moved
  split at moved
  case h_1 =>
    split at moved
    · split at moved <;> cases moved <;> exact ⟨rfl, rfl, rfl⟩
    · cases moved
      exact ⟨rfl, rfl, rfl⟩
  case h_2 | h_3 =>
    cases moved
    exact ⟨rfl, rfl, rfl⟩
  case h_4 => cases moved

/-- A client that opens the queue of a server has done no more than that. -/
theorem detachedStep_some {current : Option Nat} {client after : Client}
    (moved : detachedStep current client = some (some serverQ, after))
    (idle : client.queue = [] ∧ client.child = .notForked) :
    current = some serverQ ∧
      after = { Client.start client.pid with
        linked := true, parent := .sendingInit } := by
  unfold detachedStep at moved
  split at moved
  case h_1 =>
    split at moved
    case isTrue linked =>
      split at moved <;> cases moved
      refine ⟨rfl, ?_⟩
      rw [linked, idle.1, idle.2]
      rfl
    case isFalse => cases moved
  case h_2 | h_3 | h_4 => cases moved

/-- A chat for every queue. -/
def Represented (world : World) : Prop :=
  ∀ queue, ∃ chat, chat.WellRegistered ∧
    chat.point.Sound chat.registry ∧ Represents queue world chat

/-- A step is one of the chat, or the chat does not notice it. -/
def Follows (serverQ : Nat) (chat : State) (next : World)
    (events : List Event) : Prop :=
  (project serverQ events = [] ∧ Represents serverQ next chat) ∨
    ∃ known after,
      Lab4.step chat known = some (after, project serverQ events) ∧
        Represents serverQ next after

/-! One lemma for each kind of step, and the chat of one queue. -/

section Following

variable {place queue : Nat} {registry : Registry} {point : ServerPoint}
  {client moved : Client}

theorem Represents.startServer (represents : Represents serverQ world chat) :
    Represents serverQ
      { world with servers := world.servers ++ [.unlinking] } chat := by
  refine represents.frame rfl rfl ?_ id
  intro index registry point found
  rcases getElem?_append_cases found with old | ⟨_, new⟩
  · exact old
  · cases new

/-- A new queue is the first of its number, and so is its chat. -/
theorem Represents.create (represents : Represents serverQ world chat)
    (unnamed : world.queues.current = none) :
    Represents serverQ
      { world with
        queues := (world.queues.openCreate []).1
        servers := world.servers.set place
          (.serving (world.queues.openCreate []).2 .initial .receiving) }
      chat := by
  have number : (world.queues.openCreate []).2 =
      world.queues.objects.length := by
    rw [Named.openCreate, unnamed]
  refine ⟨represents.queue.trans (Named.read_openCreate _).symm,
    represents.clients, ?_, ?_⟩
  · intro index registry point there
    rcases getElem?_set_cases there with ⟨_, new⟩ | ⟨_, old⟩
    · cases new
      apply represents.fresh
      rw [number]
      exact Nat.lt_irrefl _
    · exact represents.server index registry point old
  · intro unmade
    exact represents.fresh fun before =>
      unmade (Named.made_openCreate _ before)

/-- The server of the queue goes on. -/
theorem Represents.serveOwn (represents : Represents serverQ world chat)
    (valid : Valid world) (registered : chat.WellRegistered)
    (sound : chat.point.Sound chat.registry) {after : State}
    {emitted : List Lab4.Event}
    (found : world.servers[place]? = some (.serving serverQ registry point))
    (served : Lab4.serverStep (world.chat serverQ registry point) =
      some (after, emitted)) :
    Follows serverQ chat
      { world with
        queues := world.queues.write serverQ after.serverQ
        servers := world.servers.set place
          (.serving serverQ after.registry after.point)
        clients := after.clients } (emitted.map (serverQ, ·)) := by
  have made := valid.made place _ registry point found
  obtain ⟨rfl, rfl⟩ := represents.server place registry point found
  have stepped := represents.serverStep registered sound valid.pids
    (serverStep_move served)
  refine .inr ⟨.server, { after with
      clients := members serverQ world.opened after.clients }, ?_,
    (Named.read_write_self _ _ made).symm, rfl, ?_, ?_⟩
  · rw [project_map_self]
    exact stepped
  · intro index registry point there
    rcases getElem?_set_cases there with ⟨_, new⟩ | ⟨other, old⟩
    · cases new
      exact ⟨rfl, rfl⟩
    · exact absurd (valid.single index place _ _ _ _ _ old found) other
  · intro unmade
    exact absurd ((Named.made_write_iff _).mpr made) unmade

/-- A server leaves the members of other queues alone. -/
theorem Represented.placed (represented : Represented world)
    (other : queue ≠ serverQ) {after : State} {emitted : List Lab4.Event}
    (found : world.servers[place]? = some (.serving queue registry point))
    (served : Lab4.serverStep (world.chat queue registry point) =
      some (after, emitted)) :
    members serverQ world.opened after.clients =
      members serverQ world.opened world.clients := by
  obtain ⟨chat, formed, steady, owner⟩ := represented queue
  obtain ⟨rfl, rfl⟩ := owner.server place registry point found
  rcases owner.placed formed steady (serverStep_move served) with
    kept | ⟨clientQ, client, msg, own, there, changed⟩
  · rw [kept]
  · rw [changed]
    refine members_set_of_ne ?_ there rfl
    rw [own]
    exact fun equal => other (Option.some.inj equal)

/-- The server of another queue goes on. -/
theorem Represents.serveOther (represents : Represents serverQ world chat)
    (other : queue ≠ serverQ) {after : State}
    (clients : members serverQ world.opened after.clients =
      members serverQ world.opened world.clients) :
    Represents serverQ
      { world with
        queues := world.queues.write queue after.serverQ
        servers := world.servers.set place
          (.serving queue after.registry after.point)
        clients := after.clients } chat := by
  refine represents.frame (Named.read_write_of_ne _ _ (Ne.symm other)) clients
    ?_ (Named.made_write_iff _).mpr
  intro index registry point there
  rcases getElem?_set_cases there with ⟨_, new⟩ | ⟨_, old⟩
  · cases new
    exact absurd rfl other
  · exact old

theorem Represents.startClient (represents : Represents serverQ world chat)
    (valid : Valid world) {pid : Pid}
    (fresh : pid ∉ world.clients.map Client.pid) :
    Follows serverQ chat
      { world with clients := world.clients ++ [.start pid] } [] := by
  have nobody : world.opened world.clients.length ≠ some serverQ := by
    intro opened
    exact Nat.lt_irrefl _ (valid.present _ _ opened).1
  have pids : chat.clients.map Client.pid = world.clients.map Client.pid := by
    rw [represents.clients, pids_members]
  refine .inr ⟨.start pid,
    { chat with clients := chat.clients ++ [.start pid] }, ?_,
    represents.queue, ?_, represents.server, represents.fresh⟩
  · rw [Lab4.step, pids, if_neg fresh]
    rfl
  · rw [members_concat nobody, represents.clients]

/-- A client that has no queue open yet, and may open this one. -/
theorem Represents.detached (represents : Represents serverQ world chat)
    (valid : Valid world) (found : world.clients[place]? = some client)
    (apart : world.opened place = none) {opened : Option Nat}
    (stepped : detachedStep world.queues.current client =
      some (opened, moved)) :
    Follows serverQ chat
      { world with
        clients := world.clients.set place moved
        opened := Function.update world.opened place opened } [] := by
  have other : world.opened place ≠ some serverQ := by
    rw [apart]
    simp
  have updated : members serverQ
      (Function.update world.opened place opened)
      (world.clients.set place moved) = _ :=
    members_update other found (detachedStep_keeps stepped).1
  by_cases own : opened = some serverQ
  · subst own
    rw [if_pos rfl] at updated
    obtain ⟨_, rfl⟩ := detachedStep_some stepped
      (valid.detached place client found apart)
    have there : chat.clients[place]? = some (.start client.pid) :=
      represents.clients ▸ members_of_ne other found
    refine .inr ⟨.parent place [], { chat with
        clients := chat.clients.set place { Client.start client.pid with
          linked := true, parent := .sendingInit } }, ?_,
      represents.queue, ?_, represents.server, represents.fresh⟩
    · rw [Lab4.step, State.moveClient, moveAt_eq_some_iff.mpr
        ⟨_, _, there, rfl, rfl⟩]
      rfl
    · rw [updated, represents.clients]
  · rw [if_neg own] at updated
    exact .inl ⟨rfl, represents.frame rfl updated (fun _ _ _ => id) id⟩

theorem Represents.leave (represents : Represents serverQ world chat)
    (found : world.clients[place]? = some client)
    (apart : world.opened place = none) :
    Represents serverQ
      { world with
        clients := world.clients.set place
          { client with parent := .unlinking } } chat := by
  have other : world.opened place ≠ some serverQ := by
    rw [apart]
    simp
  refine represents.frame rfl ?_ (fun _ _ _ => id) id
  exact members_set_of_ne other found rfl

/-- A client does what it does in the chat of the queue it has open. -/
theorem Represents.member (represents : Represents serverQ world chat)
    (valid : Valid world) {known : Lab4.Action} {contents : List ChatMessage}
    {emitted : List Lab4.Event}
    {move : List ChatMessage → Client →
      Option (List ChatMessage × Client × List Lab4.Event)}
    (same : ∀ chat, Lab4.step chat known = chat.moveClient place move)
    (own : world.opened place = some queue)
    (found : world.clients[place]? = some client)
    (stepped : move (world.queues.read [] queue) client =
      some (contents, moved, emitted))
    (pid : moved.pid = client.pid) :
    Follows serverQ chat
      { world with
        queues := world.queues.write queue contents
        clients := world.clients.set place moved }
      (emitted.map (queue, ·)) := by
  have made := (valid.present place queue own).2
  by_cases mine : queue = serverQ
  · subst mine
    have there : chat.clients[place]? = some client :=
      represents.clients ▸ members_of_eq own found
    rw [← represents.queue] at stepped
    refine .inr ⟨known, { chat with
        serverQ := contents, clients := chat.clients.set place moved },
      ?_, (Named.read_write_self _ _ made).symm, ?_, represents.server, ?_⟩
    · rw [project_map_self, same, State.moveClient,
        moveAt_eq_some_iff.mpr ⟨client, moved, there, stepped, rfl⟩]
      rfl
    · rw [members_set_self own, represents.clients]
    · intro unmade
      exact absurd ((Named.made_write_iff _).mpr made) unmade
  · refine .inl ⟨project_map_of_ne mine emitted, represents.frame
      (Named.read_write_of_ne _ _ (Ne.symm mine)) ?_ (fun _ _ _ => id)
      (Named.made_write_iff _).mpr⟩
    refine members_set_of_ne ?_ found pid
    rw [own]
    exact fun equal => mine (Option.some.inj equal)

end Following

theorem Move.represents (move : Move world action next events)
    (valid : Valid world) (represented : Represented world)
    (registered : chat.WellRegistered)
    (sound : chat.point.Sound chat.registry)
    (represents : Represents serverQ world chat) :
    Follows serverQ chat next events := by
  cases move with
  | startServer => exact .inl ⟨rfl, represents.startServer⟩
  | unlink | clean | interruptServer | killServer =>
      exact .inl ⟨rfl, represents.stop rfl id (by rintro _ _ _ ⟨⟩)⟩
  | create found =>
      have unnamed := valid.unnamed (List.mem_of_getElem? found)
      exact .inl ⟨rfl, represents.create unnamed⟩
  | @serve _ queue _ _ _ emitted found served =>
      by_cases same : queue = serverQ
      · subst same
        exact represents.serveOwn valid registered sound found served
      · exact .inl ⟨project_map_of_ne same emitted,
          represents.serveOther same (represented.placed same found served)⟩
  | startClient fresh => exact represents.startClient valid fresh
  | detached found apart moved =>
      exact represents.detached valid found apart moved
  | leave found apart => exact .inl ⟨rfl, represents.leave found apart⟩
  | member same own found moved pid =>
      exact represents.member valid same own found moved pid

/-- A step after which the same clients have the same open. -/
theorem Valid.frame (valid : Valid world) (sound : next.queues.Sound)
    (keeps : ∀ {queue}, world.queues.Made queue → next.queues.Made queue)
    (servers : next.servers = world.servers)
    (unnamed : world.queues.current = none → next.queues.current = none)
    (pids : next.clients.map Client.pid = world.clients.map Client.pid)
    (opened : ∀ index queue, next.opened index = some queue →
      world.opened index = some queue ∨
        index < world.clients.length ∧ next.queues.Made queue)
    (detached : ∀ (index : Nat) (client : Client),
      next.clients[index]? = some client → next.opened index = none →
      client.queue = [] ∧ client.child = .notForked) : Valid next where
  sound := sound
  made index queue registry point found := by
    rw [servers] at found
    exact keeps (valid.made index queue registry point found)
  single := by
    rw [servers]
    exact valid.single
  alone := by
    rw [servers]
    exact valid.alone
  unnamed := by
    rw [servers]
    exact fun opening => unnamed (valid.unnamed opening)
  pids := by
    rw [pids]
    exact valid.pids
  present index queue found := by
    have length : next.clients.length = world.clients.length := by
      simpa using congrArg List.length pids
    rw [length]
    rcases opened index queue found with old | new
    · exact ⟨(valid.present index queue old).1,
        keeps (valid.present index queue old).2⟩
    · exact new
  detached := detached

/-- A step of a server. -/
theorem Valid.serverStep (valid : Valid world) {index : Nat}
    {queues : Named (List ChatMessage)} {before after : Server}
    (found : world.servers[index]? = some before) (sound : queues.Sound)
    (keeps : ∀ {queue}, world.queues.Made queue → queues.Made queue)
    (serving : ∀ queue registry point,
      after = .serving queue registry point → queues.Made queue ∧
        ∀ (place : Nat) registry' point',
          world.servers[place]? = some (.serving queue registry' point') →
          place = index)
    (unnamed : .opening ∈ world.servers.set index after →
      queues.current = none)
    (alone : after = .opening → .opening ∉ world.servers) :
    Valid { world with queues, servers := world.servers.set index after } where
  sound := sound
  made place queue registry point there := by
    rcases getElem?_set_cases there with ⟨_, new⟩ | ⟨_, old⟩
    · exact (serving queue registry point new.symm).1
    · exact keeps (valid.made place queue registry point old)
  single first second queue registry point registry' point' one other := by
    rcases getElem?_set_cases one with ⟨rfl, new⟩ | ⟨_, old⟩ <;>
      rcases getElem?_set_cases other with ⟨rfl, new'⟩ | ⟨_, old'⟩
    · rfl
    · exact ((serving queue registry point new.symm).2 second _ _ old').symm
    · exact (serving queue registry' point' new'.symm).2 first _ _ old
    · exact valid.single first second _ _ _ _ _ old old'
  alone first second one other := by
    rcases getElem?_set_cases one with ⟨rfl, new⟩ | ⟨_, old⟩ <;>
      rcases getElem?_set_cases other with ⟨rfl, new'⟩ | ⟨_, old'⟩
    · rfl
    · exact absurd (List.mem_of_getElem? old') (alone new.symm)
    · exact absurd (List.mem_of_getElem? old) (alone new'.symm)
    · exact valid.alone first second old old'
  unnamed := unnamed
  pids := valid.pids
  present place queue opened :=
    ⟨(valid.present place queue opened).1,
      keeps (valid.present place queue opened).2⟩
  detached := valid.detached

/-- Who is about to make a queue after a server has taken a step. -/
theorem opening_set {index : Nat} {after : Server}
    (opening : .opening ∈ world.servers.set index after)
    (other : after ≠ .opening) : .opening ∈ world.servers := by
  rcases List.mem_or_eq_of_mem_set opening with old | new
  · exact old
  · exact absurd new.symm other

/-- A server that stops, or is stopped. -/
theorem Valid.stop (valid : Valid world) {index : Nat} {before after : Server}
    (found : world.servers[index]? = some before)
    (idle : ∀ queue registry point, after ≠ .serving queue registry point)
    (other : after ≠ .opening) :
    Valid { world with servers := world.servers.set index after } :=
  valid.serverStep found valid.sound id
    (fun queue registry point same => absurd same (idle queue registry point))
    (fun opening => valid.unnamed (opening_set opening other))
    fun same => absurd same other

theorem Valid.startServer (valid : Valid world) :
    Valid { world with servers := world.servers ++ [.unlinking] } := by
  have old {index : Nat} {server : Server} (other : server ≠ .unlinking)
      (found : (world.servers ++ [.unlinking])[index]? = some server) :
      world.servers[index]? = some server := by
    rcases getElem?_append_cases found with old | ⟨_, new⟩
    · exact old
    · exact absurd new other
  refine ⟨valid.sound, ?_, ?_, ?_, ?_, valid.pids, valid.present,
    valid.detached⟩
  · intro index queue registry point found
    exact valid.made index queue registry point (old (by simp) found)
  · intro first second queue registry point registry' point' one other
    exact valid.single first second _ _ _ _ _ (old (by simp) one)
      (old (by simp) other)
  · intro first second one other
    exact valid.alone first second (old (by simp) one) (old (by simp) other)
  · intro opening
    rcases List.mem_append.mp opening with before | new
    · exact valid.unnamed before
    · cases List.mem_singleton.mp new

section Validity

variable {place queue : Nat} {registry : Registry} {point : ServerPoint}
  {client moved : Client}

theorem Valid.unlink (valid : Valid world) (apart : Apart world (.server place))
    (found : world.servers[place]? = some .unlinking) :
    Valid { world with
      queues := world.queues.unlink
      servers := world.servers.set place .opening } := by
  refine valid.serverStep found Named.unlink_sound id (by simp)
    (fun _ => rfl) fun _ opening => ?_
  have nobody := apart (by simp [found, Server.unlinks]) _ opening
  exact nobody rfl

/-- The name is free, so the queue is new and nobody serves it yet. -/
theorem Valid.create (valid : Valid world)
    (found : world.servers[place]? = some .opening) :
    Valid { world with
      queues := (world.queues.openCreate []).1
      servers := world.servers.set place
        (.serving (world.queues.openCreate []).2 .initial .receiving) } := by
  have unnamed := valid.unnamed (List.mem_of_getElem? found)
  have new : ¬ world.queues.Made (world.queues.openCreate []).2 := by
    rw [Named.openCreate, unnamed]
    exact Nat.lt_irrefl _
  refine valid.serverStep found (Named.openCreate_sound _ valid.sound)
    (Named.made_openCreate _) ?_ ?_ (by simp)
  · rintro queue registry point ⟨⟩
    refine ⟨Named.made_of_openCreate _ valid.sound, ?_⟩
    intro index registry' point' there
    exact absurd (valid.made index _ _ _ there) new
  · intro opening
    obtain ⟨index, there⟩ := List.getElem?_of_mem opening
    rcases getElem?_set_cases there with ⟨_, new⟩ | ⟨other, old⟩
    · cases new
    · exact absurd (valid.alone index place old found) other

theorem Valid.serve (valid : Valid world) (represented : Represented world)
    {after : State} {emitted : List Lab4.Event}
    (found : world.servers[place]? = some (.serving queue registry point))
    (served : Lab4.serverStep (world.chat queue registry point) =
      some (after, emitted)) :
    Valid { world with
      queues := world.queues.write queue after.serverQ
      servers := world.servers.set place
        (.serving queue after.registry after.point)
      clients := after.clients } := by
  have made := valid.made place queue registry point found
  have still : Valid { world with
      queues := world.queues.write queue after.serverQ
      servers := world.servers.set place
        (.serving queue after.registry after.point) } := by
    refine valid.serverStep found (Named.write_sound _ valid.sound)
      (Named.made_write_iff _).mpr ?_
      (fun opening => valid.unnamed (opening_set opening (by simp)))
      (by simp)
    rintro _ _ _ ⟨⟩
    refine ⟨(Named.made_write_iff _).mpr made, ?_⟩
    intro index registry' point' there
    exact valid.single index place _ _ _ _ _ there found
  obtain ⟨chat, formed, steady, owner⟩ := represented queue
  obtain ⟨rfl, rfl⟩ := owner.server place registry point found
  rcases owner.placed formed steady (serverStep_move served) with
    kept | ⟨clientQ, client, msg, own, there, changed⟩
  · rw [kept]
    exact still
  · rw [changed]
    refine still.frame still.sound id rfl id
      (map_set_of_eq Client.pid there rfl) (fun _ _ => .inl) ?_
    intro index other seen nobody
    rcases getElem?_set_cases seen with ⟨rfl, _⟩ | ⟨_, old⟩
    · exact absurd (own.symm.trans nobody) (by simp)
    · exact valid.detached index other old nobody

theorem Valid.startClient (valid : Valid world) {pid : Pid}
    (fresh : pid ∉ world.clients.map Client.pid) :
    Valid { world with clients := world.clients ++ [.start pid] } := by
  refine ⟨valid.sound, valid.made, valid.single, valid.alone,
    valid.unnamed, ?_, ?_, ?_⟩
  · rw [List.map_append, List.nodup_append]
    refine ⟨valid.pids, List.nodup_singleton _, ?_⟩
    intro one old two new same
    rw [same, List.mem_singleton.mp new] at old
    exact fresh old
  · intro index queue opened
    obtain ⟨inside, made⟩ := valid.present index queue opened
    rw [List.length_append]
    exact ⟨Nat.lt_add_right 1 inside, made⟩
  · intro index client found nobody
    rcases getElem?_append_cases found with old | ⟨_, rfl⟩
    · exact valid.detached index client old nobody
    · exact ⟨rfl, rfl⟩

theorem Valid.detach (valid : Valid world)
    (found : world.clients[place]? = some client)
    (nobody : world.opened place = none) {opened : Option Nat}
    (stepped : detachedStep world.queues.current client =
      some (opened, moved)) :
    Valid { world with
      clients := world.clients.set place moved
      opened := Function.update world.opened place opened } := by
  have idle := valid.detached place client found nobody
  obtain ⟨pid, kept, childless⟩ := detachedStep_keeps stepped
  obtain ⟨inside, _⟩ := List.getElem?_eq_some_iff.mp found
  refine valid.frame valid.sound id rfl id
    (map_set_of_eq Client.pid found pid) ?_ ?_
  · intro index queue opens
    dsimp only at opens
    by_cases same : index = place
    · subst same
      rw [Function.update_self] at opens
      subst opens
      exact .inr ⟨inside, valid.sound _ (detachedStep_some stepped idle).1⟩
    · rw [Function.update_of_ne same] at opens
      exact .inl opens
  · intro index other seen alone
    rcases getElem?_set_cases seen with ⟨_, rfl⟩ | ⟨different, old⟩
    · exact ⟨kept.trans idle.1, childless.trans idle.2⟩
    · dsimp only at alone
      rw [Function.update_of_ne different] at alone
      exact valid.detached index other old alone

theorem Valid.leave (valid : Valid world)
    (found : world.clients[place]? = some client) :
    Valid { world with
      clients := world.clients.set place
        { client with parent := .unlinking } } := by
  refine valid.frame valid.sound id rfl id
    (map_set_of_eq Client.pid found rfl) (fun _ _ => .inl) ?_
  intro index other seen alone
  rcases getElem?_set_cases seen with ⟨rfl, rfl⟩ | ⟨_, old⟩
  · exact valid.detached index client found alone
  · exact valid.detached index other old alone

theorem Valid.member (valid : Valid world) {contents : List ChatMessage}
    (own : world.opened place = some queue)
    (found : world.clients[place]? = some client)
    (pid : moved.pid = client.pid) :
    Valid { world with
      queues := world.queues.write queue contents
      clients := world.clients.set place moved } := by
  refine valid.frame (Named.write_sound _ valid.sound)
    (Named.made_write_iff _).mpr rfl id
    (map_set_of_eq Client.pid found pid) (fun _ _ => .inl) ?_
  intro index other seen nobody
  rcases getElem?_set_cases seen with ⟨rfl, _⟩ | ⟨_, old⟩
  · exact absurd (own.symm.trans nobody) (by simp)
  · exact valid.detached index other old nobody

end Validity

theorem Move.valid (move : Move world action next events)
    (apart : Apart world action) (represented : Represented world)
    (valid : Valid world) : Valid next := by
  cases move with
  | startServer => exact valid.startServer
  | unlink found => exact valid.unlink apart found
  | clean found =>
      exact valid.serverStep found Named.unlink_sound id (by simp)
        (fun _ => rfl) (by simp)
  | interruptServer found | killServer found =>
      exact valid.stop found (by simp) (by simp)
  | create found => exact valid.create found
  | serve found served => exact valid.serve represented found served
  | startClient fresh => exact valid.startClient fresh
  | detached found nobody moved => exact valid.detach found nobody moved
  | leave found => exact valid.leave found
  | member _ own found _ pid => exact valid.member own found pid

end Steps

section Runs

variable {world : World} {trace : List Event}

theorem initial_valid : Valid initial where
  sound := Named.init_sound
  made _ _ _ _ found := by cases found
  single _ _ _ _ _ _ _ found := by cases found
  alone _ _ found := by cases found
  unnamed opening := by cases opening
  pids := List.nodup_nil
  present _ _ opened := by cases opened
  detached _ _ found := by cases found

theorem initial_represents (serverQ : Nat) :
    Represents serverQ initial Lab4.initial where
  queue := rfl
  clients := rfl
  server _ _ _ found := by cases found
  fresh _ := ⟨rfl, rfl⟩

theorem run_represents
    (run : restarts.RunWithin Apart initial trace world) :
    Valid world ∧ ∀ queue, ∃ chat,
      system.Run Lab4.initial (project queue trace) chat ∧
        Represents queue world chat := by
  refine run.history (fun past reached => Valid reached ∧
    ∀ queue, ∃ chat, system.Run Lab4.initial (project queue past) chat ∧
      Represents queue reached chat)
    ⟨initial_valid, fun queue => ⟨_, .refl _, initial_represents queue⟩⟩ ?_
  rintro past before action after events ⟨valid, chats⟩ apart taken
  have move := step_move taken
  have represented : Represented before := by
    intro queue
    obtain ⟨chat, steps, represents⟩ := chats queue
    exact ⟨chat, run_wellRegistered steps, (run_delivered steps).sound,
      represents⟩
  refine ⟨move.valid apart represented valid, fun queue => ?_⟩
  obtain ⟨chat, steps, represents⟩ := chats queue
  rw [project_append]
  rcases move.represents valid represented (run_wellRegistered steps)
    (run_delivered steps).sound represents with
    ⟨silent, represents⟩ | ⟨known, later, stepped, represents⟩
  · exact ⟨chat, by rwa [silent, List.append_nil], represents⟩
  · exact ⟨later, steps.tail trivial stepped, represents⟩

/-- Whatever else happens, what a server does with its clients is a run of the
chat of one server, and no two servers have the same queue. -/
theorem apart_run_refines
    (run : restarts.RunWithin Apart initial trace world) :
    (∀ serverQ, ∃ chat,
      system.Run Lab4.initial (project serverQ trace) chat ∧
        Represents serverQ world chat) ∧
    ∀ (first second : Nat) serverQ registry point registry' point',
      world.servers[first]? = some (.serving serverQ registry point) →
      world.servers[second]? = some (.serving serverQ registry' point') →
      first = second :=
  ⟨(run_represents run).2, (run_represents run).1.single⟩

end Runs

end Restarts

end SysOp.Lab4
