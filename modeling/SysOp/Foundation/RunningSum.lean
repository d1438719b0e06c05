import Mathlib.Algebra.BigOperators.Group.List.Basic
import Mathlib.Algebra.Order.BigOperators.Group.List
import Mathlib.Algebra.Order.Group.Defs
import Mathlib.Algebra.Order.Monoid.Unbundled.Basic
import Mathlib.Data.List.Perm.Basic

/-!
# Running sums within bounds

Adding terms one after the other, where every sum on the way must stay within
bounds.  Whether it does depends on the order of the terms; it does in every
order exactly when the gains alone and the losses alone stay within.
-/

namespace SysOp.Foundation

universe u v

variable {Total : Type u} [AddCommGroup Total] [LinearOrder Total]

/-- A sum that is defined within the bounds only. -/
def boundedAdd (low high total term : Total) : Option Total :=
  if low ≤ total + term ∧ total + term ≤ high then some (total + term) else none

def boundedSum (low high : Total) : Total → List Total → Option Total
  | total, [] => some total
  | total, term :: rest =>
      (boundedAdd low high total term).bind fun total =>
        boundedSum low high total rest

/-- All running sums are within the bounds. -/
def Within (low high total : Total) (terms : List Total) : Prop :=
  ∀ past, past <+: terms →
    low ≤ total + past.sum ∧ total + past.sum ≤ high

def gains (terms : List Total) : Total := (terms.map (max 0)).sum

def losses (terms : List Total) : Total := (terms.map (min 0)).sum

variable {low high total : Total} {terms : List Total}

@[simp]
theorem within_nil : Within low high total [] ↔ low ≤ total ∧ total ≤ high := by
  simp [Within]

@[simp]
theorem within_cons {term : Total} :
    Within low high total (term :: terms) ↔
      (low ≤ total ∧ total ≤ high) ∧ Within low high (total + term) terms := by
  simp only [Within, List.prefix_cons_iff]
  constructor
  · intro within
    refine ⟨by simpa using within [] (.inl rfl), ?_⟩
    intro past before
    have later := within (term :: past) (.inr ⟨past, rfl, before⟩)
    rwa [List.sum_cons, ← add_assoc] at later
  · rintro ⟨bounded, within⟩ past (rfl | ⟨past, rfl, before⟩)
    · simpa using bounded
    · rw [List.sum_cons, ← add_assoc]
      exact within past before

theorem Within.start (within : Within low high total terms) :
    low ≤ total ∧ total ≤ high := by
  simpa using within [] List.nil_prefix

theorem boundedSum_eq_some {result : Total}
    (summed : boundedSum low high total terms = some result) :
    result = total + terms.sum := by
  induction terms generalizing total with
  | nil => simpa [boundedSum, eq_comm] using summed
  | cons term terms inductionHypothesis =>
      simp only [boundedSum, boundedAdd, Option.bind_eq_some_iff] at summed
      obtain ⟨_, added, summed⟩ := summed
      split at added <;> cases added
      rw [inductionHypothesis summed, List.sum_cons, add_assoc]

/-- The sum is defined exactly when all running sums are within bounds. -/
theorem boundedSum_isSome_iff (bounded : low ≤ total ∧ total ≤ high) :
    (boundedSum low high total terms).isSome ↔
      Within low high total terms := by
  induction terms generalizing total with
  | nil => simpa [boundedSum] using bounded
  | cons term terms inductionHypothesis =>
      rw [within_cons, boundedSum, boundedAdd]
      split
      case isTrue inside =>
        rw [Option.bind_some, inductionHypothesis inside]
        exact (and_iff_right bounded).symm
      case isFalse outside =>
        simp only [Option.bind_none, Option.isSome_none, Bool.false_eq_true,
          false_iff]
        exact fun within => outside within.2.start

theorem boundedSum_eq_some_sum_iff (bounded : low ≤ total ∧ total ≤ high) :
    boundedSum low high total terms = some (total + terms.sum) ↔
      Within low high total terms := by
  rw [← boundedSum_isSome_iff bounded]
  constructor
  · intro summed
    rw [summed]
    rfl
  · intro defined
    obtain ⟨result, summed⟩ := Option.isSome_iff_exists.mp defined
    rw [summed, boundedSum_eq_some summed]

section Orders

theorem gains_append (first rest : List Total) :
    gains (first ++ rest) = gains first + gains rest := by
  simp [gains]

theorem losses_append (first rest : List Total) :
    losses (first ++ rest) = losses first + losses rest := by
  simp [losses]

theorem gains_perm {order : List Total} (reordered : order.Perm terms) :
    gains order = gains terms :=
  (reordered.map _).sum_eq

theorem losses_perm {order : List Total} (reordered : order.Perm terms) :
    losses order = losses terms :=
  (reordered.map _).sum_eq

theorem sum_filter_nonneg (terms : List Total) :
    (terms.filter fun term => 0 ≤ term).sum = gains terms := by
  induction terms with
  | nil => rfl
  | cons term terms inductionHypothesis =>
      rw [gains, List.map_cons, List.sum_cons, ← gains, ← inductionHypothesis]
      rcases le_total 0 term with gain | loss
      · simp [gain]
      · rcases eq_or_lt_of_le loss with rfl | loss
        · simp
        · simp [not_le.mpr loss, loss.le]

theorem sum_filter_nonpos (terms : List Total) :
    (terms.filter fun term => term ≤ 0).sum = losses terms := by
  induction terms with
  | nil => rfl
  | cons term terms inductionHypothesis =>
      rw [losses, List.map_cons, List.sum_cons, ← losses,
        ← inductionHypothesis]
      rcases le_total term 0 with loss | gain
      · simp [loss]
      · rcases eq_or_lt_of_le gain with rfl | gain
        · simp
        · simp [not_le.mpr gain, gain.le]

variable [IsOrderedAddMonoid Total]

theorem gains_nonneg (terms : List Total) : 0 ≤ gains terms := by
  apply List.sum_nonneg
  simp

theorem losses_nonpos (terms : List Total) : losses terms ≤ 0 := by
  induction terms with
  | nil => simp [losses]
  | cons term terms inductionHypothesis =>
      simp only [losses, List.map_cons, List.sum_cons]
      exact add_nonpos (min_le_left ..) inductionHypothesis

theorem sum_le_gains (terms : List Total) : terms.sum ≤ gains terms := by
  induction terms with
  | nil => simp [gains]
  | cons term terms inductionHypothesis =>
      simp only [gains, List.map_cons, List.sum_cons]
      exact add_le_add (le_max_right ..) inductionHypothesis

theorem losses_le_sum (terms : List Total) : losses terms ≤ terms.sum := by
  induction terms with
  | nil => simp [losses]
  | cons term terms inductionHypothesis =>
      simp only [losses, List.map_cons, List.sum_cons]
      exact add_le_add (min_le_right ..) inductionHypothesis

/-- All gains first is the highest running sum there is, all losses first the
lowest. -/
theorem within_perm_iff {Item : Type v} (weight : Item → Total)
    (items : List Item) :
    (∀ order : List Item, order.Perm items →
        Within low high total (order.map weight)) ↔
      low ≤ total + losses (items.map weight) ∧
        total + gains (items.map weight) ≤ high := by
  constructor
  · intro within
    have gained := within _
      (List.filter_append_perm (fun item => 0 ≤ weight item) items)
      ((items.filter fun item => 0 ≤ weight item).map weight)
      (by rw [List.map_append]; exact List.prefix_append ..)
    have lost := within _
      (List.filter_append_perm (fun item => weight item ≤ 0) items)
      ((items.filter fun item => weight item ≤ 0).map weight)
      (by rw [List.map_append]; exact List.prefix_append ..)
    rw [← sum_filter_nonneg, List.filter_map]
    rw [← sum_filter_nonpos, List.filter_map]
    exact ⟨lost.1, gained.2⟩
  · rintro ⟨above, below⟩ order reordered past ⟨rest, split⟩
    have mapped := reordered.map weight
    rw [← split] at mapped
    rw [← gains_perm mapped, gains_append] at below
    rw [← losses_perm mapped, losses_append] at above
    constructor
    · calc
        low ≤ total + (losses past + losses rest) := above
        _ ≤ total + (losses past + 0) := by
            gcongr
            exact losses_nonpos rest
        _ = total + losses past := by rw [add_zero]
        _ ≤ total + past.sum := by
            gcongr
            exact losses_le_sum past
    · calc
        total + past.sum ≤ total + gains past := by
            gcongr
            exact sum_le_gains past
        _ = total + (gains past + 0) := by rw [add_zero]
        _ ≤ total + (gains past + gains rest) := by
            gcongr
            exact gains_nonneg rest
        _ ≤ high := below

end Orders

end SysOp.Foundation
