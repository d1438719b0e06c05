import Mathlib.Algebra.Notation.Defs
import Mathlib.Data.Nat.Notation

/-!
# The integrator of `integrator.c`

The type of the numbers and its operations are parameters, so that one text
serves machine numbers, rationals and reals.  The loop need not end, so it is
given fuel; a value it ends with does not depend on the fuel.
-/

namespace SysOp.Lab3

universe u

variable {Double : Type u} [Add Double] [Mul Double] [Div Double]
  [LT Double] [DecidableLT Double] [OfNat Double 1] [OfNat Double 4]

/-- `stop` is `end`, a word Lean reserves. -/
structure Interval (Double : Type u) where
  start : Double
  stop : Double
  dx : Double
  deriving DecidableEq

def function (x : Double) : Double :=
  4 / (x * x + 1)

/-- The `while` loop of `rectangular_integration` from given values of its
variables; `none` when the fuel ends first. -/
def integrationLoop (stop dx : Double) : Nat → Double → Double → Option Double
  | 0, _, _ => none
  | fuel + 1, x, result =>
      if x < stop then
        integrationLoop stop dx fuel (x + dx) (result + function x * dx)
      else
        some result

theorem integrationLoop_continue {stop dx x : Double} (inside : x < stop)
    (fuel : Nat) (result : Double) :
    integrationLoop stop dx (fuel + 1) x result =
      integrationLoop stop dx fuel (x + dx) (result + function x * dx) :=
  if_pos inside

theorem integrationLoop_finish {stop dx x : Double} (outside : ¬ x < stop)
    (fuel : Nat) (result : Double) :
    integrationLoop stop dx (fuel + 1) x result = some result :=
  if_neg outside

theorem integrationLoop_unique {stop dx x result first second : Double}
    {fuel more : Nat}
    (ended : integrationLoop stop dx fuel x result = some first)
    (again : integrationLoop stop dx more x result = some second) :
    first = second := by
  induction fuel generalizing more x result with
  | zero => simp [integrationLoop] at ended
  | succ fuel inductionHypothesis =>
      cases more with
      | zero => simp [integrationLoop] at again
      | succ more =>
          by_cases inside : x < stop
          · rw [integrationLoop_continue inside] at ended again
            exact inductionHypothesis ended again
          · rw [integrationLoop_finish inside] at ended again
            exact Option.some.inj (ended.symm.trans again)

variable [OfNat Double 0]

def rectangularIntegration (fuel : Nat) (start stop dx : Double) :
    Option Double :=
  integrationLoop stop dx fuel start 0

/-- The call `rectangular_integration(req.start, req.end, req.dx)` returns
this value. -/
def Interval.Integral (req : Interval Double) (value : Double) : Prop :=
  ∃ fuel, rectangularIntegration fuel req.start req.stop req.dx = some value

theorem Interval.Integral.unique {req : Interval Double}
    {first second : Double} (one : req.Integral first)
    (other : req.Integral second) : first = second := by
  obtain ⟨fuel, ended⟩ := one
  obtain ⟨more, again⟩ := other
  exact integrationLoop_unique ended again

end SysOp.Lab3
