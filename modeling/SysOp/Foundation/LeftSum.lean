import Mathlib.Analysis.SumIntegralComparisons

/-!
# Left Riemann sums

The sum of the rectangles whose left edges start at a point and go on in equal
steps.  Of a decreasing function it is above the integral, and above it by one
rectangle at most.
-/

namespace SysOp.Foundation

universe u

def leftSum {Number : Type u} [Semiring Number] (f : Number → Number)
    (a dx : Number) (n : Nat) : Number :=
  ∑ i ∈ Finset.range n, f (a + i * dx) * dx

section

variable {Number : Type u} [Semiring Number] (f : Number → Number)
  (a dx : Number) (n : Nat)

@[simp]
theorem leftSum_zero : leftSum f a dx 0 = 0 := by
  simp [leftSum]

theorem leftSum_succ :
    leftSum f a dx (n + 1) = leftSum f a dx n + f (a + n * dx) * dx := by
  rw [leftSum, Finset.sum_range_succ, leftSum]

/-- The first rectangle apart. -/
theorem leftSum_succ_left :
    leftSum f a dx (n + 1) = f a * dx + leftSum f (a + dx) dx n := by
  rw [leftSum, Finset.sum_range_succ', add_comm, leftSum]
  congr 1
  · simp
  · apply Finset.sum_congr rfl
    intro i _
    congr 2
    push_cast
    rw [add_mul, one_mul, add_assoc, add_comm dx]

end

section Antitone

variable {f : ℝ → ℝ} {a b dx : ℝ}

theorem intervalIntegrable_of_antitone (antitone : AntitoneOn f (Set.Ici a))
    {x y : ℝ} (left : a ≤ x) (right : a ≤ y) :
    IntervalIntegrable f MeasureTheory.volume x y := by
  refine (antitone.mono ?_).intervalIntegrable
  intro z between
  exact (le_min left right).trans between.1

/-- One rectangle is above the function. -/
theorem integral_step_le (antitone : AntitoneOn f (Set.Ici a)) {x : ℝ}
    (after : a ≤ x) (positive : 0 ≤ dx) :
    ∫ y in x..x + dx, f y ≤ f x * dx := by
  have order : x ≤ x + dx := le_add_of_nonneg_right positive
  calc
    ∫ y in x..x + dx, f y ≤ ∫ _ in x..x + dx, f x := by
        apply intervalIntegral.integral_mono_on order
          (intervalIntegrable_of_antitone antitone after (after.trans order))
          (by simp)
        intro y between
        exact antitone after (after.trans between.1) between.1
    _ = f x * dx := by simp [mul_comm]

/-- The next rectangle is below it. -/
theorem le_integral_step (antitone : AntitoneOn f (Set.Ici a)) {x : ℝ}
    (after : a ≤ x) (positive : 0 ≤ dx) :
    f (x + dx) * dx ≤ ∫ y in x..x + dx, f y := by
  have order : x ≤ x + dx := le_add_of_nonneg_right positive
  calc
    f (x + dx) * dx = ∫ _ in x..x + dx, f (x + dx) := by simp [mul_comm]
    _ ≤ ∫ y in x..x + dx, f y := by
        apply intervalIntegral.integral_mono_on order (by simp)
          (intervalIntegrable_of_antitone antitone after (after.trans order))
        intro y between
        exact antitone (after.trans between.1) (after.trans order) between.2

theorem le_add_mul (positive : 0 ≤ dx) (n : Nat) : a ≤ a + n * dx :=
  le_add_of_nonneg_right (mul_nonneg n.cast_nonneg positive)

/-- The integral over one step more. -/
theorem integral_succ (antitone : AntitoneOn f (Set.Ici a)) (positive : 0 ≤ dx)
    (n : Nat) :
    ∫ x in a..a + (n + 1 : ℕ) * dx, f x =
      (∫ x in a..a + n * dx, f x) +
        ∫ x in a + n * dx..a + n * dx + dx, f x := by
  have after : a ≤ a + n * dx := le_add_mul positive n
  have onward : a ≤ a + n * dx + dx :=
    after.trans (le_add_of_nonneg_right positive)
  have next : a + (n + 1 : ℕ) * dx = a + n * dx + dx := by
    push_cast
    ring
  rw [next, intervalIntegral.integral_add_adjacent_intervals
    (intervalIntegrable_of_antitone antitone le_rfl after)
    (intervalIntegrable_of_antitone antitone after onward)]

theorem integral_le_leftSum (antitone : AntitoneOn f (Set.Ici a))
    (positive : 0 ≤ dx) (n : Nat) :
    ∫ x in a..a + n * dx, f x ≤ leftSum f a dx n := by
  induction n with
  | zero => simp
  | succ n inductionHypothesis =>
      rw [integral_succ antitone positive, leftSum_succ]
      apply add_le_add inductionHypothesis
      exact integral_step_le antitone (le_add_mul positive n) positive

theorem leftSum_le_integral (antitone : AntitoneOn f (Set.Ici a))
    (positive : 0 ≤ dx) (n : Nat) :
    leftSum f (a + dx) dx n ≤ ∫ x in a..a + n * dx, f x := by
  induction n with
  | zero => simp
  | succ n inductionHypothesis =>
      have edge : a + dx + n * dx = a + n * dx + dx := by ring
      rw [integral_succ antitone positive, leftSum_succ, edge]
      apply add_le_add inductionHypothesis
      exact le_integral_step antitone (le_add_mul positive n) positive

theorem integral_le_integral (antitone : AntitoneOn f (Set.Ici a))
    (nonneg : ∀ x, a ≤ x → 0 ≤ f x) {c : ℝ} (first : a ≤ b) (second : b ≤ c) :
    ∫ x in a..b, f x ≤ ∫ x in a..c, f x := by
  apply intervalIntegral.integral_mono_interval le_rfl first second
  · apply (MeasureTheory.ae_restrict_mem measurableSet_Ioc).mono
    intro x between
    exact nonneg x between.1.le
  · exact intervalIntegrable_of_antitone antitone le_rfl (first.trans second)

/-- The rectangles cover the interval, all but the last of them inside it. -/
theorem leftSum_bounds (antitone : AntitoneOn f (Set.Ici a))
    (nonneg : ∀ x, a ≤ x → 0 ≤ f x) (positive : 0 ≤ dx) (order : a ≤ b)
    {n : Nat} (inside : ∀ i < n, a + i * dx < b) (outside : b ≤ a + n * dx) :
    ∫ x in a..b, f x ≤ leftSum f a dx n ∧
      leftSum f a dx n ≤ (∫ x in a..b, f x) + f a * dx := by
  constructor
  · exact (integral_le_integral antitone nonneg order outside).trans
      (integral_le_leftSum antitone positive n)
  · cases n with
    | zero =>
        have empty : 0 ≤ ∫ x in a..b, f x :=
          intervalIntegral.integral_nonneg order fun x between =>
            nonneg x between.1
        rw [leftSum_zero]
        exact add_nonneg empty (mul_nonneg (nonneg a le_rfl) positive)
    | succ n =>
        have reached : a + n * dx ≤ b := (inside n (Nat.lt_succ_self n)).le
        have after : a ≤ a + n * dx := le_add_mul positive n
        calc
          leftSum f a dx (n + 1) = f a * dx + leftSum f (a + dx) dx n :=
              leftSum_succ_left f a dx n
          _ ≤ f a * dx + ∫ x in a..b, f x := by
              gcongr
              exact (leftSum_le_integral antitone positive n).trans
                (integral_le_integral antitone nonneg after reached)
          _ = (∫ x in a..b, f x) + f a * dx := add_comm _ _

end Antitone

end SysOp.Foundation
