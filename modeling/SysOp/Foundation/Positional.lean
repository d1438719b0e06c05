import Mathlib.Data.List.Nodup

/-!
# Pairing by position

Two lists are paired element by element and the related pairs are kept.  That
finds every related pair exactly if related elements never stand at different
positions.
-/

namespace SysOp.Foundation

universe u v

variable {First : Type u} {Second : Type v} (related : First → Second → Prop)

/-- Related elements stand at the same position. -/
def Aligned (firsts : List First) (seconds : List Second) : Prop :=
  ∀ (i j : Nat) (first : First) (second : Second), firsts[i]? = some first →
    seconds[j]? = some second → related first second → i = j

variable [∀ first second, Decidable (related first second)]

def positional (firsts : List First) (seconds : List Second) :
    List (First × Second) :=
  (firsts.zip seconds).filter fun pair => decide (related pair.1 pair.2)

variable {related} {firsts : List First} {seconds : List Second}

theorem mem_positional_iff {first : First} {second : Second} :
    (first, second) ∈ positional related firsts seconds ↔
      related first second ∧ ∃ i : Nat,
        firsts[i]? = some first ∧ seconds[i]? = some second := by
  rw [positional, List.mem_filter, List.mem_iff_getElem?, decide_eq_true_eq,
    and_comm]
  simp only [List.getElem?_zip_eq_some]

theorem positional_append (more : List First) (others : List Second)
    (together : firsts.length = seconds.length) :
    positional related (firsts ++ more) (seconds ++ others) =
      positional related firsts seconds ++ positional related more others := by
  rw [positional, List.zip_append together, List.filter_append]
  rfl

theorem zip_nodup (distinct : firsts.Nodup) (seconds : List Second) :
    (firsts.zip seconds).Nodup := by
  induction firsts generalizing seconds with
  | nil => exact List.nodup_nil
  | cons first rest inductionHypothesis =>
      cases seconds with
      | nil => exact List.nodup_nil
      | cons second others =>
          rw [List.nodup_cons] at distinct
          rw [List.zip_cons_cons, List.nodup_cons]
          refine ⟨?_, inductionHypothesis distinct.2 others⟩
          intro membership
          exact distinct.1 (List.of_mem_zip membership).1

theorem positional_nodup (distinct : firsts.Nodup) (seconds : List Second) :
    (positional related firsts seconds).Nodup :=
  (zip_nodup distinct seconds).filter _

theorem Aligned.exact (aligned : Aligned related firsts seconds)
    (first : First) (second : Second) :
    (first, second) ∈ positional related firsts seconds ↔
      first ∈ firsts ∧ second ∈ seconds ∧ related first second := by
  rw [mem_positional_iff]
  constructor
  · rintro ⟨holds, i, found, foundSecond⟩
    exact ⟨List.mem_of_getElem? found, List.mem_of_getElem? foundSecond, holds⟩
  · rintro ⟨membership, membershipSecond, holds⟩
    obtain ⟨i, found⟩ := List.mem_iff_getElem?.mp membership
    obtain ⟨j, foundSecond⟩ := List.mem_iff_getElem?.mp membershipSecond
    have same := aligned i j first second found foundSecond holds
    subst same
    exact ⟨holds, i, found, foundSecond⟩

theorem aligned_of_complete (distinct : firsts.Nodup)
    (distinctSeconds : seconds.Nodup)
    (complete : ∀ first ∈ firsts, ∀ second ∈ seconds, related first second →
      (first, second) ∈ positional related firsts seconds) :
    Aligned related firsts seconds := by
  intro i j first second found foundSecond holds
  have paired := complete first (List.mem_of_getElem? found) second
    (List.mem_of_getElem? foundSecond) holds
  obtain ⟨_, position, there, thereSecond⟩ := mem_positional_iff.mp paired
  obtain ⟨inside, _⟩ := List.getElem?_eq_some_iff.mp found
  obtain ⟨insideSecond, _⟩ := List.getElem?_eq_some_iff.mp foundSecond
  have same := (List.getElem?_inj inside distinct).mp (found.trans there.symm)
  have sameSecond := (List.getElem?_inj insideSecond distinctSeconds).mp
    (foundSecond.trans thereSecond.symm)
  exact same.trans sameSecond.symm

end SysOp.Foundation
