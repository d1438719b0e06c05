import SysOp.Lab4.Instances

/-!
# One server after the other

If every server is started after the earlier ones have ended, the one that runs
is always found by its name, even if its predecessor has been killed.  A server
that is interrupted too late takes the name away from its successor.
-/

namespace SysOp.Lab4

open SysOp.Foundation

namespace Restarts

/-- A server is started when all others are over. -/
def Alone (world : World) : Action → Prop
  | .startServer => ∀ server ∈ world.servers, server.over
  | _ => True

instance (world : World) : ∀ action, Decidable (Alone world action)
  | .startServer =>
      inferInstanceAs (Decidable (∀ server ∈ world.servers, _))
  | .server _ | .interruptServer _ | .killServer _ | .startClient _
  | .parent _ _ | .child _ | .interruptParent _ | .interruptChild _ =>
      .isTrue trivial

instance (world : World) : ∀ action, Decidable (Apart world action)
  | .server _ => inferInstanceAs (Decidable (_ → ∀ other ∈ world.servers, _))
  | .startServer | .interruptServer _ | .killServer _ | .startClient _
  | .parent _ _ | .child _ | .interruptParent _ | .interruptChild _ =>
      .isTrue trivial

/-- The queue of a server, as long as it serves it. -/
def Server.served : Server → Option Nat
  | .serving serverQ _ _ => some serverQ
  | _ => none

/-- A server that has not taken the name yet, or may leave it behind. -/
def Server.leaves : Server → Bool
  | .unlinking | .cleaning | .killed => true
  | _ => false

/-- Only the last server runs, and the name leads to it or to nobody, unless it
has left the name behind or has not taken it yet. -/
structure Orderly (world : World) : Prop where
  earlier : ∀ (index : Nat) (server : Server),
    world.servers[index]? = some server → server.over = false →
    index + 1 = world.servers.length
  found : ∀ (index : Nat) (server : Server) serverQ,
    world.servers[index]? = some server → server.served = some serverQ →
    world.queues.current = some serverQ
  last : ∀ serverQ, world.queues.current = some serverQ →
    ∃ server, world.servers[world.servers.length - 1]? = some server ∧
      (server.served = some serverQ ∨ server.leaves = true)

theorem Server.not_over {server : Server} {serverQ : Nat}
    (served : server.served = some serverQ) : server.over = false := by
  cases server <;> first | rfl | cases served

section Steps

variable {world next : World} {action : Action} {events : List Event}

/-- A step of the last server. -/
theorem Orderly.step (orderly : Orderly world) {index : Nat}
    {before after : Server} {queues : Named (List ChatMessage)}
    (there : world.servers[index]? = some before)
    (running : before.over = false)
    (found : ∀ serverQ, after.served = some serverQ →
      queues.current = some serverQ)
    (last : ∀ serverQ, queues.current = some serverQ →
      after.served = some serverQ ∨ after.leaves = true) :
    Orderly { world with queues, servers := world.servers.set index after } where
  earlier place server seen alive := by
    rw [List.length_set]
    rcases getElem?_set_cases seen with ⟨rfl, _⟩ | ⟨_, old⟩
    · exact orderly.earlier place before there running
    · exact orderly.earlier place server old alive
  found place server serverQ seen served := by
    rcases getElem?_set_cases seen with ⟨_, rfl⟩ | ⟨other, old⟩
    · exact found serverQ served
    · have one := orderly.earlier place server old (Server.not_over served)
      have also := orderly.earlier index before there running
      exact absurd (Nat.succ.inj (one.trans also.symm)) other
  last serverQ current := by
    have final := orderly.earlier index before there running
    obtain ⟨inside, _⟩ := List.getElem?_eq_some_iff.mp there
    refine ⟨after, ?_, last serverQ current⟩
    rw [List.length_set, ← final, Nat.add_sub_cancel,
      List.getElem?_set_self inside]

/-- The servers do not notice. -/
theorem Orderly.frame (orderly : Orderly world)
    (servers : next.servers = world.servers)
    (current : next.queues.current = world.queues.current) : Orderly next where
  earlier := by
    rw [servers]
    exact orderly.earlier
  found := by
    rw [servers, current]
    exact orderly.found
  last := by
    rw [servers, current]
    exact orderly.last

theorem Orderly.startServer (orderly : Orderly world)
    (finished : ∀ server ∈ world.servers, server.over = true) :
    Orderly { world with servers := world.servers ++ [.unlinking] } where
  earlier index server found running := by
    rw [List.length_append]
    rcases getElem?_append_cases found with old | ⟨rfl, _⟩
    · have ended := finished server (List.mem_of_getElem? old)
      rw [running] at ended
      cases ended
    · rfl
  found index server serverQ found served := by
    rcases getElem?_append_cases found with old | ⟨_, rfl⟩
    · exact orderly.found index server serverQ old served
    · cases served
  last serverQ current := by
    refine ⟨.unlinking, ?_, .inr rfl⟩
    rw [List.length_append]
    exact List.getElem?_concat_length

theorem Move.orderly (move : Move world action next events)
    (alone : Alone world action) (orderly : Orderly world) :
    Orderly next := by
  cases move with
  | startServer => exact orderly.startServer alone
  | unlink found | clean found =>
      exact orderly.step found rfl (fun _ served => by cases served)
        fun _ current => by cases current
  | create found =>
      refine orderly.step found rfl ?_ ?_
      · rintro serverQ ⟨⟩
        exact Named.current_openCreate _
      · intro serverQ current
        rw [Named.current_openCreate] at current
        exact .inl current
  | @serve index serverQ registry point chat emitted found =>
      have current := orderly.found index _ serverQ found rfl
      refine (orderly.step found rfl ?_ ?_).frame rfl rfl
      · rintro _ ⟨⟩
        exact current
      · intro other same
        exact .inl (current.symm.trans same)
  | interruptServer found running | killServer found running =>
      exact orderly.step found running (fun _ served => by cases served)
        fun _ _ => .inr rfl
  | startClient | detached | leave | member => exact orderly.frame rfl rfl

/-- Only one server at a time can be about to make its queue. -/
theorem Orderly.apart (orderly : Orderly world)
    (alone : Alone world action) : Apart world action := by
  cases action with
  | server index =>
      intro unlinks other member opens
      obtain ⟨server, found, unlinking⟩ :=
        (Option.any_eq_true _ _).mp unlinks
      obtain ⟨place, there⟩ := List.getElem?_of_mem member
      have first := orderly.earlier index server found
        (by cases server <;> first | rfl | cases unlinking)
      have second := orderly.earlier place other there
        (by cases other <;> first | rfl | cases opens)
      obtain rfl : index = place := Nat.succ.inj (first.trans second.symm)
      obtain rfl : server = other := Option.some.inj (found.symm.trans there)
      cases server with
      | opening => cases unlinking
      | unlinking | serving | cleaning | ended | killed => cases opens
  | startServer | interruptServer | killServer | startClient | parent | child
  | interruptParent | interruptChild => trivial

end Steps

section Runs

variable {world : World} {trace : List Event}

theorem initial_orderly : Orderly initial where
  earlier _ _ found := by cases found
  found _ _ _ found := by cases found
  last _ current := by cases current

theorem alone_run
    (run : restarts.RunWithin Alone initial trace world) :
    restarts.RunWithin Apart initial trace world ∧ Orderly world := by
  refine run.history (fun past reached =>
    restarts.RunWithin Apart initial past reached ∧ Orderly reached)
    ⟨.refl _, initial_orderly⟩ ?_
  rintro past before action after events ⟨steps, orderly⟩ alone taken
  exact ⟨steps.tail (orderly.apart alone) taken,
    (step_move taken).orderly alone orderly⟩

/-- The server that runs is the one its name leads to, with a chat of its
own, and so is whatever else the name leads to, unless its server has died or
is being replaced. -/
theorem alone_run_found
    (run : restarts.RunWithin Alone initial trace world) :
    Orderly world ∧ ∀ serverQ, ∃ chat,
      system.Run Lab4.initial (project serverQ trace) chat ∧
        Represents serverQ world chat :=
  ⟨(alone_run run).2, (run_represents (alone_run run).1).2⟩

/-- A server that starts. -/
private def startUp (index : Nat) : List Action :=
  [.startServer, .server index, .server index]

/-- Client `index` starts. -/
private def starts (index : Nat) : Action :=
  .startClient ⟨index % 2 ^ 31, Nat.mod_lt index (by decide)⟩

/-- A client that starts and is registered by this server. -/
private def signOn (index server : Nat) : List Action :=
  starts index :: (List.replicate 3 (.parent index []) ++
    List.replicate 3 (.server server) ++ List.replicate 2 (.parent index []))

/-- The first server is killed, and the second one gets a client. -/
private def succeeded : World × List Event :=
  (restarts.execute Alone initial
    (startUp 0 ++ signOn 0 0 ++ [.killServer 0] ++ startUp 1 ++
      signOn 1 1)).get (by decide +kernel)

theorem alone_run_found_succeeded : ∃ chat,
    system.Run Lab4.initial (project 1 succeeded.2) chat ∧
      Represents 1 succeeded.1 chat ∧ succeeded.1.queues.current = some 1 ∧
      succeeded.1.opened 0 = some 0 ∧ succeeded.1.opened 1 = some 1 := by
  have run : restarts.RunWithin Alone initial succeeded.2 succeeded.1 :=
    Machine.execute_get_runWithin _
  obtain ⟨chat, steps, represents⟩ := (alone_run_found run).2 1
  exact ⟨chat, steps, represents, by decide +kernel⟩

/-- The handler of the first server runs when the second one has its queue. -/
private def overtaken : World × List Event :=
  (restarts.execute Apart initial
    (startUp 0 ++ signOn 0 0 ++ [.interruptServer 0] ++ startUp 1 ++
      signOn 1 1 ++ [.server 0, starts 2, .parent 2 [],
        .parent 2 []])).get (by decide +kernel)

/-- A client that comes then finds no server, though the second one runs. -/
example : (overtaken.1.servers.map Server.served,
    overtaken.1.queues.current, overtaken.1.opened 2) =
    ([none, some 1], none, none) := by
  decide +kernel

theorem apart_run_refines_overtaken : ∃ chat,
    system.Run Lab4.initial (project 1 overtaken.2) chat ∧
      Represents 1 overtaken.1 chat := by
  have run : restarts.RunWithin Apart initial overtaken.2 overtaken.1 :=
    Machine.execute_get_runWithin _
  exact (apart_run_refines run).1 1

end Runs

end Restarts

end SysOp.Lab4
