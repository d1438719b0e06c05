import SysOp.Lab5.Refinement

/-!
# Where everything stands still

A producer or consumer that cannot move has ended or waits at a semaphore of
value 0.  With no manager inside, the mutex is then free, so nobody waits for
it, nobody carries a token, and the two counting semaphores alone add up to
the capacity.
-/

namespace SysOp.Lab5

open SysOp.Foundation

variable {Memory Seed Order Receipt Content : Type}

section Stuck

variable {program : Program Memory Seed Order Receipt} {seed : Seed}
  {ipc : Ipc Memory}

theorem producerStep_eq_none {producer : Producer Order}
    (stuck : producerStep program seed ipc producer = none) :
    producer = .creating 0 ∨
      (∃ left order, producer = .waitEmpty left order ∧ ipc.empty = 0) ∨
      (∃ left order, producer = .waitMutex left order ∧ ipc.mutex = 0) := by
  cases producer with
  | creating left =>
      cases left with
      | zero => exact .inl rfl
      | succ left => cases stuck
  | waitEmpty left order =>
      simp only [producerStep, Option.map_eq_none_iff,
        semWait_eq_none_iff] at stuck
      exact .inr (.inl ⟨left, order, rfl, stuck⟩)
  | waitMutex left order =>
      simp only [producerStep, Option.map_eq_none_iff,
        semWait_eq_none_iff] at stuck
      exact .inr (.inr ⟨left, order, rfl, stuck⟩)
  | inserting | postMutex | postFull => cases stuck

theorem consumerStep_eq_none {consumer : Consumer Receipt}
    (stuck : consumerStep program ipc consumer = none) :
    consumer = .ended ∨ (consumer = .waitFull ∧ ipc.full = 0) ∨
      (consumer = .waitMutex ∧ ipc.mutex = 0) := by
  cases consumer with
  | waitFull =>
      simp only [consumerStep, Option.map_eq_none_iff,
        semWait_eq_none_iff] at stuck
      exact .inr (.inl ⟨rfl, stuck⟩)
  | waitMutex =>
      simp only [consumerStep, Option.map_eq_none_iff,
        semWait_eq_none_iff] at stuck
      exact .inr (.inr ⟨rfl, stuck⟩)
  | ended => exact .inl rfl
  | removing | postMutex | postEmpty | processing => cases stuck

end Stuck

section Quiescent

variable {program : Program Memory Seed Order Receipt}
  {state : State Memory Order Receipt}

/-- No producer and no consumer can take a step, and no manager is inside. -/
structure State.StandsStill (program : Program Memory Seed Order Receipt)
    (state : State Memory Order Receipt) : Prop where
  producers : ∀ (index : Nat) (seed : Seed),
    step program state (.producer index seed) = none
  consumers : ∀ index : Nat, step program state (.consumer index) = none
  managers : ∀ manager ∈ state.managers, manager.inside = 0

theorem State.StandsStill.producer [Nonempty Seed]
    (still : state.StandsStill program) {producer : Producer Order}
    (present : producer ∈ state.producers) :
    producer = .creating 0 ∨
      (∃ left order, producer = .waitEmpty left order ∧
        state.ipc.empty = 0) ∨
      (∃ left order, producer = .waitMutex left order ∧
        state.ipc.mutex = 0) := by
  obtain ⟨index, found⟩ := List.getElem?_of_mem present
  obtain ⟨seed⟩ := ‹Nonempty Seed›
  have disabled := still.producers index seed
  simp only [step, Option.map_eq_none_iff] at disabled
  exact producerStep_eq_none (moveAt_eq_none found disabled)

theorem State.StandsStill.consumer (still : state.StandsStill program)
    {consumer : Consumer Receipt} (present : consumer ∈ state.consumers) :
    consumer = .ended ∨ (consumer = .waitFull ∧ state.ipc.full = 0) ∨
      (consumer = .waitMutex ∧ state.ipc.mutex = 0) := by
  obtain ⟨index, found⟩ := List.getElem?_of_mem present
  have disabled := still.consumers index
  simp only [step, Option.map_eq_none_iff] at disabled
  exact consumerStep_eq_none (moveAt_eq_none found disabled)

/-- Nobody is inside, so the mutex is free. -/
theorem State.StandsStill.mutex [Nonempty Seed] {capacity : Nat}
    (still : state.StandsStill program)
    (accounted : state.Accounted capacity) : state.ipc.mutex = 1 := by
  have producers : census Producer.inside state.producers = 0 := by
    apply census_eq_zero_iff.mpr
    intro producer present
    rcases still.producer present with rfl | ⟨_, _, rfl, _⟩ | ⟨_, _, rfl, _⟩ <;>
      rfl
  have consumers : census Consumer.inside state.consumers = 0 := by
    apply census_eq_zero_iff.mpr
    intro consumer present
    rcases still.consumer present with rfl | ⟨rfl, _⟩ | ⟨rfl, _⟩ <;> rfl
  have managers : census Manager.inside state.managers = 0 :=
    census_eq_zero_iff.mpr still.managers
  have sum := accounted.mutex
  simp only [State.inside] at sum
  omega

theorem State.StandsStill.quiescent [Nonempty Seed] {capacity : Nat}
    {store : Store Order Receipt Content}
    {represents : Memory → Content → Prop} {content : Content}
    (still : state.StandsStill program) (positive : 0 < capacity)
    (keeps : state.Keeps capacity store represents content)
    (noneEnded : ∀ consumer ∈ state.consumers, consumer ≠ .ended)
    (someConsumer : state.consumers ≠ []) :
    (∀ producer ∈ state.producers, producer = .creating 0) ∧
      (∀ consumer ∈ state.consumers, consumer = .waitFull) ∧
      state.ipc.full = 0 ∧ state.ipc.empty = capacity ∧
      state.ipc.mutex = 1 ∧ store.size content = 0 := by
  have free := still.mutex keeps.accounted
  have consumers : ∀ consumer ∈ state.consumers,
      consumer = .waitFull ∧ state.ipc.full = 0 := by
    intro consumer present
    rcases still.consumer present with ended | waiting | ⟨_, held⟩
    · exact absurd ended (noneEnded consumer present)
    · exact waiting
    · omega
  obtain ⟨someone, present⟩ := List.exists_mem_of_ne_nil _ someConsumer
  have noTask := (consumers someone present).2
  have nothingHeld : state.tasksHeld = 0 := by
    apply census_eq_zero_iff.mpr
    intro consumer present
    rw [(consumers consumer present).1]
    rfl
  have nothingPromised : state.unserved = 0 := by
    apply census_eq_zero_iff.mpr
    intro consumer present
    rw [(consumers consumer present).1]
    rfl
  have noSlotHeld : state.slotsHeld = 0 := by
    apply census_eq_zero_iff.mpr
    intro producer present
    rcases still.producer present with
      rfl | ⟨_, _, rfl, _⟩ | ⟨_, _, _, held⟩
    · rfl
    · rfl
    · omega
  have nothingUnposted : state.unposted = 0 := by
    have bound := census_le_census Producer.unposted_le_holdsSlot
      state.producers
    simp only [State.slotsHeld] at noSlotHeld
    simp only [State.unposted]
    omega
  have tokens := keeps.accounted.tokens
  have stored := keeps.stored
  refine ⟨?_, fun consumer present => (consumers consumer present).1, noTask,
    by omega, free, by omega⟩
  intro producer present
  rcases still.producer present with
    finished | ⟨_, _, _, full⟩ | ⟨_, _, _, held⟩
  · exact finished
  · omega
  · omega

/-- Nothing but a signal ends a consumer. -/
theorem Move.noneEnded {next : State Memory Order Receipt}
    {events : List (Event Order Receipt)}
    (move : Move program state next events)
    (noneEnded : ∀ consumer ∈ state.consumers, consumer ≠ .ended) :
    ∀ consumer ∈ next.consumers, consumer ≠ .ended := by
  cases move with
  | startConsumer =>
      intro consumer present
      rcases List.mem_append.mp present with old | new
      · exact noneEnded consumer old
      · rw [List.mem_singleton.mp new]
        simp
  | @consumer index before after ipc events found moved =>
      intro consumer present
      rcases List.mem_or_eq_of_mem_set present with old | rfl
      · exact noneEnded consumer old
      · cases before with
        | waitFull | waitMutex =>
            simp only [consumerStep, Option.map_eq_some_iff,
              Prod.mk.injEq] at moved
            obtain ⟨_, _, _, rfl, _⟩ := moved
            simp
        | removing | postMutex | postEmpty | processing | ended =>
            cases moved <;> simp
  | startProducer | startManager | producer | manager => exact noneEnded

end Quiescent

end SysOp.Lab5
