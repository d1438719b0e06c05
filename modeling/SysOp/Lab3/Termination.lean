import Mathlib.Algebra.Order.Archimedean.Basic
import SysOp.Foundation.LeftSum
import SysOp.Lab3.Moves

/-!
# When the integration ends

In exact arithmetic the loop goes on exactly while the multiples of `dx` stay
below the end.  `program2.c` passes on whatever it receives, so a request with
a `dx` that is not positive keeps it busy for ever.
-/

namespace SysOp.Lab3

open SysOp.Foundation

section Loop

universe u

variable {Double : Type u} [Field Double]

theorem add_add_mul (start dx : Double) (i : Nat) :
    start + dx + i * dx = start + (i + 1 : ℕ) * dx := by
  push_cast
  ring

variable [LinearOrder Double] [IsStrictOrderedRing Double]

/-- The loop passes its test exactly `n` times. -/
def LeavesAfter (start stop dx : Double) (n : Nat) : Prop :=
  (∀ i < n, start + i * dx < stop) ∧ stop ≤ start + n * dx

theorem LeavesAfter.next {start stop dx : Double} {n : Nat}
    (leaves : LeavesAfter start stop dx (n + 1)) :
    start < stop ∧ LeavesAfter (start + dx) stop dx n := by
  obtain ⟨inside, outside⟩ := leaves
  refine ⟨by simpa using inside 0 (Nat.succ_pos n), ?_, ?_⟩
  · intro i below
    rw [add_add_mul]
    exact inside (i + 1) (Nat.succ_lt_succ below)
  · rw [add_add_mul]
    exact outside

theorem LeavesAfter.previous {start stop dx : Double} {n : Nat}
    (first : start < stop) (leaves : LeavesAfter (start + dx) stop dx n) :
    LeavesAfter start stop dx (n + 1) := by
  obtain ⟨inside, outside⟩ := leaves
  constructor
  · intro i below
    cases i with
    | zero => simpa using first
    | succ i =>
        rw [← add_add_mul]
        exact inside i (Nat.lt_of_succ_lt_succ below)
  · rw [← add_add_mul]
    exact outside

theorem integrationLoop_leaves {stop dx : Double} {n : Nat}
    {x : Double} (leaves : LeavesAfter x stop dx n) (result : Double) :
    integrationLoop stop dx (n + 1) x result =
      some (result + leftSum function x dx n) := by
  induction n generalizing x result with
  | zero =>
      have outside : ¬ x < stop := not_lt.mpr (by simpa using leaves.2)
      rw [integrationLoop_finish outside, leftSum_zero, add_zero]
  | succ n inductionHypothesis =>
      obtain ⟨inside, later⟩ := leaves.next
      rw [integrationLoop_continue inside, inductionHypothesis later,
        leftSum_succ_left, add_assoc]

theorem leaves_of_integrationLoop {stop dx : Double} {fuel : Nat}
    {x result value : Double}
    (ended : integrationLoop stop dx fuel x result = some value) :
    ∃ n, LeavesAfter x stop dx n := by
  induction fuel generalizing x result with
  | zero => simp [integrationLoop] at ended
  | succ fuel inductionHypothesis =>
      by_cases inside : x < stop
      · rw [integrationLoop_continue inside] at ended
        obtain ⟨n, leaves⟩ := inductionHypothesis ended
        exact ⟨n + 1, leaves.previous inside⟩
      · refine ⟨0, fun i below => absurd below (Nat.not_lt_zero i), ?_⟩
        simpa using inside

/-- The value of the call is a sum of rectangles. -/
theorem Interval.integral_iff {req : Interval Double} {value : Double} :
    req.Integral value ↔ ∃ n, LeavesAfter req.start req.stop req.dx n ∧
      value = leftSum function req.start req.dx n := by
  have computed : ∀ {n}, LeavesAfter req.start req.stop req.dx n →
      req.Integral (leftSum function req.start req.dx n) := by
    intro n leaves
    refine ⟨n + 1, ?_⟩
    rw [rectangularIntegration, integrationLoop_leaves leaves, zero_add]
  constructor
  · rintro ⟨fuel, ended⟩
    obtain ⟨n, leaves⟩ := leaves_of_integrationLoop ended
    exact ⟨n, leaves, Interval.Integral.unique ⟨fuel, ended⟩ (computed leaves)⟩
  · rintro ⟨n, leaves, rfl⟩
    exact computed leaves

theorem exists_leavesAfter_iff [Archimedean Double] {start stop dx : Double} :
    (∃ n, LeavesAfter start stop dx n) ↔ (start < stop → 0 < dx) := by
  constructor
  · rintro ⟨n, _, outside⟩ inside
    by_contra backwards
    have still : start + n * dx ≤ start :=
      add_le_of_nonpos_right
        (mul_nonpos_of_nonneg_of_nonpos n.cast_nonneg (not_lt.mp backwards))
    exact absurd (outside.trans still) (not_le.mpr inside)
  · intro forwards
    by_cases inside : start < stop
    · obtain ⟨n, passes⟩ := Archimedean.arch (stop - start) (forwards inside)
      have reached : ∃ n : Nat, stop ≤ start + n * dx := by
        refine ⟨n, ?_⟩
        rw [nsmul_eq_mul] at passes
        exact sub_le_iff_le_add'.mp passes
      classical
      refine ⟨Nat.find reached, ?_, Nat.find_spec reached⟩
      intro i earlier
      exact not_le.mp (Nat.find_min reached earlier)
    · refine ⟨0, fun i below => absurd below (Nat.not_lt_zero i), ?_⟩
      simpa using inside

theorem Interval.exists_integral_iff [Archimedean Double]
    {req : Interval Double} :
    (∃ value, req.Integral value) ↔ (req.start < req.stop → 0 < req.dx) := by
  rw [← exists_leavesAfter_iff]
  constructor
  · rintro ⟨value, integral⟩
    obtain ⟨n, leaves, _⟩ := Interval.integral_iff.mp integral
    exact ⟨n, leaves⟩
  · rintro ⟨n, leaves⟩
    exact ⟨_, Interval.integral_iff.mpr ⟨n, leaves, rfl⟩⟩

end Loop

section Server

variable {Double : Type}

/-- The server has read the request and has not returned from the call. -/
def ServerPoint.Serves (req : Interval Double) : ServerPoint Double → Prop
  | .closingReq received => received = some req
  | .computing current _ _ => current = req
  | _ => False

/-- The loop, if it has begun, has not come nearer to the end. -/
def ServerPoint.Stays (req : Interval Double) [LE Double] :
    ServerPoint Double → Prop
  | .closingReq received => received = some req
  | .computing current x _ => current = req ∧ x ≤ req.start
  | _ => False

theorem ServerPoint.Stays.serves [LE Double] {req : Interval Double}
    {server : ServerPoint Double} (stays : server.Stays req) :
    server.Serves req := by
  cases server with
  | closingReq received => exact stays
  | computing current x result => exact stays.1
  | _ => exact stays

theorem ServerPoint.Stays.releaseReq [LE Double] {req : Interval Double}
    {server : ServerPoint Double} (stays : server.Stays req) :
    server.releaseReq.Stays req := by
  cases server with
  | waitingReq => exact absurd stays id
  | _ => exact stays

theorem ServerPoint.Stays.releaseRes [LE Double] {req : Interval Double}
    {server : ServerPoint Double} (stays : server.Stays req) :
    server.releaseRes.Stays req := by
  cases server with
  | waitingRes => exact absurd stays id
  | _ => exact stays

variable [Field Double] [LinearOrder Double] {req : Interval Double}
  {state : State Double}

theorem run_leaves {value : Double}
    (received : state.server = .closingReq (some req))
    (integral : req.Integral value) :
    ∃ last, (system Double).Run state [] last ∧
      ¬ last.server.Serves req := by
  obtain ⟨fuel, ended⟩ := integral
  have closed : act state .server =
      some ({ state with server := .computing req req.start 0 }, []) := by
    simp [act, serverStep, received]
  obtain ⟨middle, first, server, _⟩ := step_run closed
  obtain ⟨last, rest, returned, _⟩ := run_openingRes server ended
  refine ⟨last, first.append rest, ?_⟩
  rw [returned]
  exact id

variable [IsStrictOrderedRing Double]

theorem ServerMove.stays {next : State Double} (moved : ServerMove state next)
    (before : req.start < req.stop) (backwards : req.dx ≤ 0)
    (stays : state.server.Stays req) : next.server.Stays req := by
  cases moved with
  | closeReq here =>
      rw [here] at stays
      cases stays
      exact ⟨rfl, le_rfl⟩
  | iterate here inside =>
      rw [here] at stays
      obtain ⟨rfl, behind⟩ := stays
      exact ⟨rfl, (add_le_of_nonpos_right backwards).trans behind⟩
  | finish here outside =>
      rw [here] at stays
      obtain ⟨rfl, behind⟩ := stays
      exact absurd (lt_of_le_of_lt behind before) outside
  | retry here =>
      rw [here] at stays
      cases stays
  | openReq here | awaitReq here | read here | readEof here | openRes here
  | awaitRes here | write here | brokenPipe here | closeRes here =>
      rw [here] at stays
      exact absurd stays id

theorem Move.stays {next : State Double} {action : Action Double}
    {events : List (Event Double)} (move : Move state action next events)
    (before : req.start < req.stop) (backwards : req.dx ≤ 0)
    (stays : state.server.Stays req) : next.server.Stays req := by
  cases move with
  | start | kill => exact stays
  | server moved => exact moved.stays before backwards stays
  | client found moved =>
      cases moved with
      | openReq => exact stays.releaseReq
      | openRes => exact stays.releaseRes
      | _ => exact stays

/-- Nothing any process does gets the server out of the loop. -/
theorem run_stays {trace : List (Event Double)} {last : State Double}
    (steps : (system Double).Run state trace last)
    (before : req.start < req.stop) (backwards : req.dx ≤ 0)
    (stays : state.server.Stays req) : last.server.Stays req := by
  apply steps.invariant fun state => state.server.Stays req
  · exact stays
  · intro state action next events stays _ taken
    obtain ⟨moved, move, rfl⟩ := step_move taken
    exact move.stays before backwards stays

/-- A request is computed, and the server goes on, exactly when its interval
is empty or its `dx` is positive. -/
theorem integral_iff_forwards [Archimedean Double]
    (received : state.server = .closingReq (some req)) :
    ((∃ wynik, req.Integral wynik) ↔ (req.start < req.stop → 0 < req.dx)) ∧
      ((∃ trace last, (system Double).Run state trace last ∧
          ¬ last.server.Serves req) ↔
        (req.start < req.stop → 0 < req.dx)) := by
  refine ⟨Interval.exists_integral_iff, ?_⟩
  constructor
  · rintro ⟨trace, last, steps, left⟩ before
    by_contra backwards
    have stays : state.server.Stays req := by
      rw [received]
      rfl
    exact left
      (run_stays steps before (not_lt.mp backwards) stays).serves
  · intro forwards
    obtain ⟨wynik, integral⟩ := Interval.exists_integral_iff.mpr forwards
    obtain ⟨last, steps, left⟩ := run_leaves received integral
    exact ⟨[], last, steps, left⟩

private def half : Interval Rat := ⟨0, 1, 1 / 2⟩

theorem integral_iff_forwards_half : ∃ wynik, half.Integral wynik := by
  let state : State Rat :=
    { (initial : State Rat) with server := .closingReq (some half) }
  have received : state.server = .closingReq (some half) := rfl
  exact (integral_iff_forwards received).1.mpr fun _ => by norm_num [half]

private def still : Interval Rat := ⟨0, 1, 0⟩

private def stillReceived : State Rat × List (Event Rat) :=
  ((system Rat).execute (fun _ _ => True) initial
    [.start still, .server, .client 0, .client 0, .server]).get
    (by decide +kernel)

/-- A client asks for steps of length 0, and the server never comes back. -/
theorem request_endless :
    ¬ ∀ {trace : List (Event Rat)} {state : State Rat} {req : Interval Rat},
      (system Rat).Run initial trace state →
      state.server = .closingReq (some req) →
      (∃ wynik, req.Integral wynik) ∧
        ∃ later last, (system Rat).Run state later last ∧
          ¬ last.server.Serves req := by
  intro returns
  have received : stillReceived.1.server = .closingReq (some still) := by
    decide +kernel
  have steps : (system Rat).Run initial stillReceived.2 stillReceived.1 :=
    Machine.execute_get_runWithin _
  obtain ⟨_, later, last, onward, left⟩ := returns steps received
  have stays : stillReceived.1.server.Stays still := by
    rw [received]
    rfl
  exact left (run_stays onward zero_lt_one le_rfl stays).serves

end Server

end SysOp.Lab3
