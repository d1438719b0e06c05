import Mathlib.Data.Nat.Digits.Lemmas

/-!
# Positional numerals

Digit lists with the most significant digit first, as they are written, and
the way they are read: one digit after the other, each time multiplying what
has been read so far by the base.
-/

namespace SysOp.Foundation

/-- Read further digits after some have been read. -/
def readNumeral (base total : Nat) (digits : List Nat) : Nat :=
  digits.foldl (fun total digit => base * total + digit) total

/-- The digits of a number, at least one. -/
def numeral (base n : Nat) : List Nat :=
  if n = 0 then [0] else (Nat.digits base n).reverse

variable {base : Nat}

@[simp]
theorem readNumeral_nil (total : Nat) : readNumeral base total [] = total := rfl

@[simp]
theorem readNumeral_cons (total digit : Nat) (digits : List Nat) :
    readNumeral base total (digit :: digits) =
      readNumeral base (base * total + digit) digits := rfl

theorem readNumeral_append (total : Nat) (first rest : List Nat) :
    readNumeral base total (first ++ rest) =
      readNumeral base (readNumeral base total first) rest :=
  List.foldl_append

theorem readNumeral_reverse (digits : List Nat) :
    readNumeral base 0 digits.reverse = Nat.ofDigits base digits := by
  induction digits with
  | nil => simp
  | cons digit digits inductionHypothesis =>
      rw [List.reverse_cons, readNumeral_append, inductionHypothesis,
        readNumeral_cons, readNumeral_nil, Nat.ofDigits_cons, Nat.add_comm]

theorem readNumeral_numeral (n : Nat) :
    readNumeral base 0 (numeral base n) = n := by
  unfold numeral
  split
  case isTrue zero => simp [zero]
  case isFalse => rw [readNumeral_reverse, Nat.ofDigits_digits]

theorem numeral_ne_nil (n : Nat) : numeral base n ≠ [] := by
  unfold numeral
  split
  case isTrue => simp
  case isFalse nonzero => simpa [Nat.digits_ne_nil_iff_ne_zero] using nonzero

theorem lt_of_mem_numeral (large : 1 < base) {n digit : Nat}
    (member : digit ∈ numeral base n) : digit < base := by
  unfold numeral at member
  split at member
  case isTrue =>
    rw [List.mem_singleton.mp member]
    exact Nat.lt_of_succ_lt large
  case isFalse => exact Nat.digits_lt_base large (List.mem_reverse.mp member)

theorem length_numeral_le (large : 1 < base) {n places : Nat}
    (room : 0 < places) (small : n < base ^ places) :
    (numeral base n).length ≤ places := by
  unfold numeral
  split
  case isTrue => exact room
  case isFalse =>
    rw [List.length_reverse]
    exact (Nat.digits_length_le_iff large n).mpr small

theorem le_readNumeral (large : 1 < base) (total : Nat) (digits : List Nat) :
    total ≤ readNumeral base total digits := by
  induction digits generalizing total with
  | nil => rfl
  | cons digit digits inductionHypothesis =>
      calc
        total ≤ base * total := Nat.le_mul_of_pos_left total (by omega)
        _ ≤ base * total + digit := Nat.le_add_right ..
        _ ≤ readNumeral base total (digit :: digits) := inductionHypothesis _

theorem readNumeral_split (digits : List Nat) (places : Nat) :
    readNumeral base 0 digits =
      readNumeral base (readNumeral base 0 (digits.take places))
        (digits.drop places) := by
  rw [← readNumeral_append, List.take_append_drop]

theorem readNumeral_take_le (large : 1 < base) (digits : List Nat)
    (places : Nat) :
    readNumeral base 0 (digits.take places) ≤ readNumeral base 0 digits := by
  rw [readNumeral_split digits places]
  exact le_readNumeral large _ _

/-- Further digits change the number read, unless it is zero. -/
theorem readNumeral_eq_self_iff (large : 1 < base) {total : Nat}
    {digits : List Nat} (more : digits ≠ []) :
    readNumeral base total digits = total ↔
      readNumeral base total digits = 0 := by
  obtain ⟨digit, digits, rfl⟩ := List.exists_cons_of_ne_nil more
  have grown := le_readNumeral large (base * total + digit) digits
  rw [← readNumeral_cons] at grown
  constructor
  · intro same
    rcases Nat.eq_zero_or_pos total with zero | positive
    · exact same.trans zero
    · have multiplied : total < base * total :=
        (Nat.lt_mul_iff_one_lt_left positive).mpr large
      omega
  · intro zero
    have below := le_readNumeral large total (digit :: digits)
    omega

end SysOp.Foundation
