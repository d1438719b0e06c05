import Mathlib.Analysis.SpecialFunctions.Integrals.Basic
import SysOp.Lab3.Termination
import SysOp.Lab3.Zad1.Rounds

/-!
# The sum of the slices

`main` gives each process one slice of [0, 1].  A slice is integrated in steps
of `dx` from its own start, so its last rectangle reaches beyond its end by a
part of `dx`; in real numbers the sum over all slices is above π by at most one
rectangle for each process.
-/

namespace SysOp.Lab3.Zad1

open SysOp.Foundation

section Program

universe u

variable {Double : Type u}

/-- `dx` after the checks of `main`, which refuses a negative one and puts a
small one in the place of 0. -/
def checkedDx [Field Double] [LinearOrder Double] (dx : Double) :
    Option Double :=
  if dx < 0 then none
  else if dx = 0 then some (1 / 1000000000)
  else some dx

variable [Mul Double] [Div Double] [NatCast Double] [OfNat Double 1]

/-- `slice_width`. -/
def sliceWidth (k : Nat) : Double := 1 / k

/-- What the child integrates, from `start_x` to `end_x`. -/
def slice (dx : Double) (pipe : Pipe) : Interval Double where
  start := pipe.index * sliceWidth pipe.round
  stop := (pipe.index + 1 : Nat) * sliceWidth pipe.round
  dx := dx

/-- Each child of the round returns from `rectangular_integration` with its
partial sum. -/
def Computed [Add Double] [LT Double] [DecidableLT Double] [OfNat Double 0]
    [OfNat Double 4] (dx : Double) (partialSum : Pipe → Double) (k : Nat) :
    Prop :=
  ∀ i < k, (slice dx ⟨k, i⟩).Integral (partialSum ⟨k, i⟩)

end Program

/-- Whatever passes the checks, the call returns. -/
theorem exists_integral_of_checkedDx {Double : Type} [Field Double]
    [LinearOrder Double] [IsStrictOrderedRing Double] [Archimedean Double]
    {given dx : Double} (checked : checkedDx given = some dx) (pipe : Pipe) :
    ∃ value, (slice dx pipe).Integral value := by
  rw [Interval.exists_integral_iff]
  intro _
  unfold checkedDx at checked
  split at checked
  case isTrue => cases checked
  case isFalse notNegative =>
    split at checked
    case isTrue =>
      cases checked
      norm_num [slice]
    case isFalse notZero =>
      cases checked
      exact lt_of_le_of_ne (not_lt.mp notNegative) (Ne.symm notZero)

section Real

theorem one_le_denominator (x : ℝ) : 1 ≤ x * x + 1 :=
  le_add_of_nonneg_left (mul_self_nonneg x)

theorem function_nonneg (x : ℝ) : 0 ≤ function x :=
  div_nonneg zero_le_four (zero_le_one.trans (one_le_denominator x))

theorem function_le (x : ℝ) : function x ≤ 4 :=
  div_le_self zero_le_four (one_le_denominator x)

theorem function_antitone : AntitoneOn (function : ℝ → ℝ) (Set.Ici 0) := by
  intro x nonneg y _ order
  have squares : x * x ≤ y * y := mul_self_le_mul_self nonneg order
  have denominator : 0 < x * x + 1 := zero_lt_one.trans_le (one_le_denominator x)
  unfold function
  gcongr

theorem integral_function : ∫ x in (0 : ℝ)..1, function x = Real.pi := by
  have scaled : ∀ x : ℝ, function x = 4 * (1 / (1 + x ^ 2)) := by
    intro x
    rw [function, mul_one_div, sq, add_comm]
  calc
    ∫ x in (0 : ℝ)..1, function x
        = ∫ x in (0 : ℝ)..1, 4 * (1 / (1 + x ^ 2)) := by simp only [scaled]
    _ = 4 * (Real.arctan 1 - Real.arctan 0) := by
        rw [intervalIntegral.integral_const_mul, integral_one_div_one_add_sq]
    _ = Real.pi := by
        rw [Real.arctan_one, Real.arctan_zero]
        ring

variable {dx : ℝ}

theorem sliceWidth_nonneg (k : Nat) : 0 ≤ (sliceWidth k : ℝ) := by
  unfold sliceWidth
  positivity

/-- One slice is above its part of the integral by one rectangle at most. -/
theorem slice_bounds (positive : 0 < dx) {pipe : Pipe} {value : ℝ}
    (integral : (slice dx pipe).Integral value) :
    ∫ x in (slice dx pipe).start..(slice dx pipe).stop, function x ≤ value ∧
      value ≤ (∫ x in (slice dx pipe).start..(slice dx pipe).stop, function x) +
        4 * dx := by
  obtain ⟨n, ⟨inside, outside⟩, rfl⟩ := Interval.integral_iff.mp integral
  have width := sliceWidth_nonneg pipe.round
  have nonneg : 0 ≤ (slice dx pipe).start :=
    mul_nonneg pipe.index.cast_nonneg width
  have order : (slice dx pipe).start ≤ (slice dx pipe).stop := by
    apply mul_le_mul_of_nonneg_right _ width
    exact_mod_cast Nat.le_succ pipe.index
  have antitone := function_antitone.mono (Set.Ici_subset_Ici.mpr nonneg)
  obtain ⟨below, above⟩ := leftSum_bounds antitone
    (fun x _ => function_nonneg x) positive.le order inside outside
  refine ⟨below, above.trans ?_⟩
  gcongr
  exact function_le _

theorem sumOf_bounds (positive : 0 < dx) {partialSum : Pipe → ℝ} {k : Nat}
    (computed : Computed dx partialSum k) {m : Nat} (some : m ≤ k) :
    ∫ x in (0 : ℝ)..m * sliceWidth k, function x ≤ sumOf partialSum k m ∧
      sumOf partialSum k m ≤
        (∫ x in (0 : ℝ)..m * sliceWidth k, function x) + 4 * m * dx := by
  induction m with
  | zero => simp [sumOf]
  | succ m inductionHypothesis =>
      obtain ⟨below, above⟩ := inductionHypothesis (Nat.le_of_succ_le some)
      obtain ⟨belowNext, aboveNext⟩ := slice_bounds positive (computed m some)
      have width := sliceWidth_nonneg k
      have before : (0 : ℝ) ≤ m * sliceWidth k :=
        mul_nonneg m.cast_nonneg width
      have after : (0 : ℝ) ≤ (m + 1 : ℕ) * sliceWidth k :=
        mul_nonneg (Nat.cast_nonneg _) width
      rw [sumOf_succ, ← intervalIntegral.integral_add_adjacent_intervals
        (intervalIntegrable_of_antitone function_antitone le_rfl before)
        (intervalIntegrable_of_antitone function_antitone before after)]
      refine ⟨add_le_add below belowNext, ?_⟩
      calc
        sumOf partialSum k m + partialSum ⟨k, m⟩ ≤ _ :=
            add_le_add above aboveNext
        _ = _ := by
            simp only [slice]
            push_cast
            ring

theorem total_bounds (positive : 0 < dx) {partialSum : Pipe → ℝ} {k : Nat}
    (nonempty : 1 ≤ k) (computed : Computed dx partialSum k) :
    Real.pi ≤ sumOf partialSum k k ∧
      sumOf partialSum k k ≤ Real.pi + 4 * k * dx := by
  have whole : (k : ℝ) * sliceWidth k = 1 := by
    apply mul_one_div_cancel
    exact_mod_cast Nat.one_le_iff_ne_zero.mp nonempty
  have bounds := sumOf_bounds positive computed le_rfl
  rw [whole, integral_function] at bounds
  exact bounds

/-- Whatever `main` prints is close to π. -/
theorem printed_bounds (positive : 0 < dx) {partialSum : Pipe → ℝ} {n : Nat}
    {inherited : Inherited} {trace : List (Event ℝ)} {last : State ℝ}
    (steps : (zad1 n inherited partialSum).Run
      (zad1 n inherited partialSum).start trace last)
    {k : Nat} {total : ℝ} (printed : .printed k total ∈ trace)
    (nonempty : 1 ≤ k) (computed : Computed dx partialSum k) :
    Real.pi ≤ total ∧ total ≤ Real.pi + 4 * k * dx := by
  rw [(run_collected steps).2.2 k total printed]
  exact total_bounds positive nonempty computed

/-- For every number of processes the sum is π, up to a rectangle for each, and
so is what `main` prints for it. -/
theorem total_near_pi (positive : 0 < dx) :
    (∀ pipe, ∃ value, (slice dx pipe).Integral value) ∧
      ∀ partialSum : Pipe → ℝ,
        (∀ k, 1 ≤ k → Computed dx partialSum k →
          Real.pi ≤ sumOf partialSum k k ∧
            sumOf partialSum k k ≤ Real.pi + 4 * k * dx) ∧
        (∀ k k', 1 ≤ k → 1 ≤ k' → Computed dx partialSum k →
          Computed dx partialSum k' →
          |sumOf partialSum k k - sumOf partialSum k' k'| ≤
            4 * (max k k' : ℕ) * dx) ∧
        ∀ {n : Nat} {inherited : Inherited} {trace : List (Event ℝ)}
          {last : State ℝ},
          (zad1 n inherited partialSum).Run
            (zad1 n inherited partialSum).start trace last →
          ∀ k total, .printed k total ∈ trace → 1 ≤ k →
            Computed dx partialSum k →
            Real.pi ≤ total ∧ total ≤ Real.pi + 4 * k * dx := by
  refine ⟨fun pipe => Interval.exists_integral_iff.mpr fun _ => positive, ?_⟩
  intro partialSum
  refine ⟨fun k => total_bounds positive, ?_,
    fun steps k total => printed_bounds positive steps⟩
  intro k k' nonempty nonempty' computed computed'
  obtain ⟨below, above⟩ := total_bounds positive nonempty computed
  obtain ⟨below', above'⟩ := total_bounds positive nonempty' computed'
  have first : 4 * (k : ℝ) * dx ≤ 4 * (max k k' : ℕ) * dx := by
    gcongr
    exact le_max_left k k'
  have second : 4 * (k' : ℝ) * dx ≤ 4 * (max k k' : ℕ) * dx := by
    gcongr
    exact le_max_right k k'
  rw [abs_le]
  constructor
  · linarith only [below, above', second]
  · linarith only [above, below', first]

/-- What a slice comes to in steps of 1: one rectangle. -/
noncomputable def oneRectangle (pipe : Pipe) : ℝ :=
  function (slice 1 pipe).start

/-- A step as long as the whole interval: each slice is one rectangle. -/
theorem computed_one {k : Nat} (nonempty : 1 ≤ k) :
    Computed 1 oneRectangle k := by
  intro i _
  have large : (1 : ℝ) ≤ k := by exact_mod_cast nonempty
  have width : (0 : ℝ) < 1 / k := one_div_pos.mpr (zero_lt_one.trans_le large)
  have short : 1 / (k : ℝ) ≤ 1 := (div_le_one (by linarith)).mpr large
  have edge : (slice (1 : ℝ) ⟨k, i⟩).stop = (slice 1 ⟨k, i⟩).start + 1 / k := by
    simp only [slice, sliceWidth]
    push_cast
    ring
  apply Interval.integral_iff.mpr
  refine ⟨1, ⟨?_, ?_⟩, ?_⟩
  · intro j first
    rw [Nat.lt_one_iff.mp first, edge]
    simpa using width
  · rw [edge]
    simpa [slice] using short
  · simp [leftSum_succ, slice, oneRectangle]

private def firstRound : List Action :=
  [.parent, .parent, .pipe ⟨3, 4⟩, .parent, .parent, .parent, .parent] ++
    List.replicate 5 (.child 0) ++
    [.parent, .parent, .wait 0, .parent, .parent]

private theorem firstRound_executes :
    ((zad1 1 standard oneRectangle).execute (fun _ _ => True)
      (initial standard) firstRound).isSome := by decide +kernel

private noncomputable def oneRound : State ℝ × List (Event ℝ) :=
  ((zad1 1 standard oneRectangle).execute (fun _ _ => True)
    (initial standard) firstRound).get firstRound_executes

private theorem oneRound_prints : ∃ total, .printed 1 total ∈ oneRound.2 := by
  have printed : oneRound.2.filterMap
      (fun | .printed k _ => some k | _ => none) = [1] := by decide +kernel
  have member := List.mem_singleton_self 1
  rw [← printed, List.mem_filterMap] at member
  obtain ⟨event, member, labelled⟩ := member
  cases event with
  | received => cases labelled
  | printed k total =>
      cases labelled
      exact ⟨total, member⟩

theorem total_near_pi_one :
    Real.pi ≤ sumOf oneRectangle 2 2 ∧
      |sumOf oneRectangle 1 1 - sumOf oneRectangle 2 2| ≤
        4 * (max 1 2 : ℕ) * 1 ∧
      ∃ total, .printed 1 total ∈ oneRound.2 ∧ Real.pi ≤ total ∧
        total ≤ Real.pi + 4 * (1 : ℕ) * 1 := by
  have one : Computed 1 oneRectangle 1 := computed_one le_rfl
  have two : Computed 1 oneRectangle 2 := computed_one one_le_two
  obtain ⟨_, near⟩ := total_near_pi (zero_lt_one : (0 : ℝ) < 1)
  obtain ⟨bounds, difference, prints⟩ := near oneRectangle
  have steps := Machine.execute_get_runWithin firstRound_executes
  obtain ⟨total, printed⟩ := oneRound_prints
  exact ⟨(bounds 2 one_le_two two).1,
    difference 1 2 le_rfl one_le_two one two, total, printed,
    prints steps 1 total printed le_rfl one⟩

end Real

end SysOp.Lab3.Zad1
