import SysOp.Lab4.Speech

/-!
# Total-order broadcast

The order in which the server consumes texts is the order in which every
client receives them.  Nothing here depends on how many clients there are or
on whether they leave.
-/

namespace SysOp.Lab4

open SysOp.Foundation

/-- The guarantees for the registered clients.  `texts (consumed trace)` is
the order in which the server consumes the texts. -/
structure TotallyOrdered (trace : List Event) : Prop where
  assignedFirst : ∀ client newId since,
    registration client trace = some (newId, since) →
    ∀ msg ∈ (placed client trace).head?, msg = idAssign newId
  inOrder : ∀ client newId since,
    registration client trace = some (newId, since) →
    texts (received client trace) <+: others newId (texts (consumed since))
  asTyped : ∀ client newId since sender senderId earlier,
    registration client trace = some (newId, since) →
    registration sender trace = some (senderId, earlier) →
    sentBy senderId (received client trace) <:+: typed sender trace
  agreed : ∀ client newId since other otherId earlier,
    registration client trace = some (newId, since) →
    registration other trace = some (otherId, earlier) →
    others otherId (texts (received client trace)) <:+:
        others otherId (others newId (texts (consumed trace))) ∧
      others newId (texts (received other trace)) <:+:
        others otherId (others newId (texts (consumed trace)))

theorem texts_owed (newId : Nat) (since : List Event) :
    texts (owed newId since) = others newId (texts (consumed since)) := by
  simp only [owed, texts, others, List.filter_cons]
  simp [idAssign, Bool.and_comm]

theorem others_comm (first second : Nat) (messages : List ChatMessage) :
    others first (others second messages) =
      others second (others first messages) := by
  simp only [others, List.filter_filter, Bool.and_comm]

theorem sentBy_others {newId senderId : Nat} (different : senderId ≠ newId)
    (messages : List ChatMessage) :
    ((others newId (texts messages)).filter fun msg =>
        decide (msg.clientId = (senderId : Int))).map ChatMessage.text =
      sentBy senderId messages := by
  rw [sentBy, others, List.filter_filter]
  have apart : (senderId : Int) ≠ newId := by exact_mod_cast different
  congr 1
  apply List.filter_congr
  intro msg _
  by_cases own : msg.clientId = senderId
  · simp [own, apart]
  · simp [own]

section Runs

variable {trace : List Event} {state : State}
  {client newId : Nat} {since : List Event}

theorem Delivered.placed_prefix (delivered : Delivered trace state)
    (registered : registration client trace = some (newId, since)) :
    placed client trace <+: owed newId since :=
  ⟨_, delivered.paid client newId since registered⟩

theorem Delivered.received_prefix (delivered : Delivered trace state)
    (client : Nat) : received client trace <+: placed client trace :=
  ⟨_, (delivered.fifo client).symm⟩

theorem Delivered.inOrder (delivered : Delivered trace state)
    (registered : registration client trace = some (newId, since)) :
    texts (received client trace) <+: others newId (texts (consumed since)) := by
  rw [← texts_owed]
  exact ((delivered.received_prefix client).trans
    (delivered.placed_prefix registered)).filter _

theorem consumed_suffix
    (registered : registration client trace = some (newId, since)) :
    consumed since <:+ consumed trace := by
  obtain ⟨before, rfl⟩ := registration_suffix registered
  exact ⟨consumed before, (consumed_append before since).symm⟩

theorem Delivered.agreed (delivered : Delivered trace state)
    (registered : registration client trace = some (newId, since))
    (otherId : Nat) :
    others otherId (texts (received client trace)) <:+:
      others otherId (others newId (texts (consumed trace))) := by
  have ordered := (delivered.inOrder registered).filter
    fun msg => decide (msg.clientId ≠ (otherId : Int))
  have later := (((consumed_suffix registered).filter
    fun msg => decide (msg.type = .msgText)).filter
    fun msg => decide (msg.clientId ≠ (newId : Int))).filter
    fun msg => decide (msg.clientId ≠ (otherId : Int))
  exact ordered.isInfix.trans later.isInfix

theorem Delivered.asTyped (delivered : Delivered trace state)
    (registered : registration client trace = some (newId, since))
    {sender senderId : Nat} {earlier : List Event} {process : Client}
    (spoken : Spoken trace state)
    (found : state.clients[sender]? = some process)
    (signedOn : registration sender trace = some (senderId, earlier)) :
    sentBy senderId (received client trace) <:+: typed sender trace := by
  have ordered := ((delivered.inOrder registered).filter
    fun msg => decide (msg.clientId = (senderId : Int))).map ChatMessage.text
  by_cases own : senderId = newId
  · have nothing : sentBy senderId (received client trace) = [] := by
      subst own
      have empty : (others senderId (texts (consumed since))).filter
          (fun msg => decide (msg.clientId = (senderId : Int))) = [] := by
        simp [others]
      rw [empty, List.map_nil] at ordered
      exact List.prefix_nil.mp ordered
    rw [nothing]
    exact List.nil_infix
  · rw [sentBy_others own] at ordered
    have later : sentBy senderId (consumed since) <:+
        sentBy senderId (consumed trace) :=
      (((consumed_suffix registered).filter _).filter _).map _
    have sent : sentBy senderId (consumed trace) <+:
        sentBy senderId (state.log trace) := by
      rw [State.log, sentBy_append]
      exact List.prefix_append _ _
    have typedAll := (spoken.sent sender process senderId earlier found
      signedOn).1
    exact ordered.isInfix.trans (later.isInfix.trans
      (sent.trans typedAll).isInfix)

/-- Every run of the chat is a total-order broadcast. -/
theorem run_totallyOrdered (run : system.Run initial trace state) :
    TotallyOrdered trace := by
  have delivered := run_delivered run
  have wellRegistered := run_wellRegistered run
  refine ⟨?_, ?_, ?_, ?_⟩
  · intro client newId since registered msg first
    have paid := delivered.paid client newId since registered
    cases queued : placed client trace with
    | nil => simp [queued] at first
    | cons head rest =>
        rw [queued, owed, List.cons_append] at paid
        rw [queued, List.head?_cons, Option.mem_some] at first
        rw [← first]
        exact (List.cons.inj paid).1
  · intro client newId since registered
    exact delivered.inOrder registered
  · intro client newId since sender senderId earlier registered signedOn
    have queue := (delivered.recorded sender senderId).mpr ⟨earlier, signedOn⟩
    obtain ⟨process, found, _⟩ := wellRegistered.known senderId sender queue
    exact delivered.asTyped registered (run_spoken run) found signedOn
  · intro client newId since other otherId earlier registered signedOn
    refine ⟨delivered.agreed registered otherId, ?_⟩
    rw [others_comm]
    exact delivered.agreed signedOn newId

end Runs

/-- One of two clients says something and the other hears it. -/
def conversation : List Action :=
  twoClients ++ speaking 0 ++ List.replicate 3 .server ++ [.child 1]

theorem run_totallyOrdered_example :
    TotallyOrdered ((system.execute (fun _ _ => True) initial
      conversation).get (by decide +kernel)).2 :=
  run_totallyOrdered (Machine.execute_get_runWithin _)

end SysOp.Lab4
