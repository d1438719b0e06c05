import SysOp.Foundation.Numeral
import Mathlib.Data.List.TakeWhile

/-!
# Texts

Byte strings and what the C library does with them.  A C string is known by
its bytes before the terminating NUL, and a buffer by the bytes in it.

The standard leaves open what `%d` stores for a numeral that is no `int`, so
that is a parameter.
-/

namespace SysOp.Foundation

abbrev Bytes := List UInt8

abbrev INT_MAX : Int := 2147483647

abbrev INT_MIN : Int := -2147483648

def IsInt (n : Int) : Prop := INT_MIN ≤ n ∧ n ≤ INT_MAX

instance (n : Int) : Decidable (IsInt n) :=
  inferInstanceAs (Decidable (_ ∧ _))

theorem isInt_iff {n : Int} :
    IsInt n ↔ -2147483648 ≤ n ∧ n ≤ 2147483647 := Iff.rfl

/-- The bytes of a string literal, in UTF-8. -/
def bytes (text : String) : Bytes :=
  text.toList.flatMap String.utf8EncodeChar

/-- The string a buffer holds. -/
def cString (buffer : Bytes) : Bytes :=
  buffer.takeWhile (· ≠ 0)

/-- What `snprintf` leaves in a buffer before the NUL. -/
def snprintf (size : Nat) (text : Bytes) : Bytes :=
  text.take (size - 1)

/-- `strncmp(text, word, strlen(word)) == 0`. -/
def startsWith (text word : Bytes) : Bool :=
  word.isPrefixOf text

/-- The six characters of `isspace`. -/
def isspace (byte : UInt8) : Bool :=
  byte = 32 || 9 ≤ byte && byte ≤ 13

def isdigit (byte : UInt8) : Bool :=
  48 ≤ byte && byte ≤ 57

def digitValue (byte : UInt8) : Nat :=
  byte.toNat - 48

def digitByte (digit : Nat) : UInt8 :=
  UInt8.ofNat (48 + digit)

/-- `%d` of `printf`. -/
def decimal (n : Int) : Bytes :=
  let digits := (numeral 10 n.natAbs).map digitByte
  if n < 0 then 45 :: digits else digits

/-- After the white space and the sign that `%d` of `scanf` may skip. -/
def unsigned (text : Bytes) : Bytes :=
  match text.dropWhile isspace with
  | [] => []
  | byte :: rest => if byte = 45 || byte = 43 then rest else byte :: rest

def isNegative (text : Bytes) : Bool :=
  (text.dropWhile isspace).head? = some 45

def digitsRead (text : Bytes) : List Nat :=
  ((unsigned text).takeWhile isdigit).map digitValue

/-- Where the digits begin. -/
def digitsAt (text : Bytes) : Nat :=
  text.length - (unsigned text).length

/-- The number with these digits, if there are any. -/
def signedValue (negative : Bool) (digits : List Nat) : Option Int :=
  if digits = [] then none
  else if negative then some (-readNumeral 10 0 digits)
  else some (readNumeral 10 0 digits)

/-- `%d` of `scanf`, before the number is stored. -/
def scanInt (text : Bytes) : Option Int :=
  signedValue (isNegative text) (digitsRead text)

/-- How `%d` of `scanf` stores a number into an `int`. -/
structure IntConversion where
  stored : Int → Int
  stored_of_isInt : ∀ {n}, IsInt n → stored n = n
  isInt_stored : ∀ n, IsInt (stored n)

/-- One that stores the nearest `int`. -/
def IntConversion.saturating : IntConversion where
  stored n := max INT_MIN (min n INT_MAX)
  stored_of_isInt := by
    rintro n ⟨above, below⟩
    rw [min_eq_left below, max_eq_right above]
  isInt_stored := by
    intro n
    exact ⟨le_max_left .., max_le (by decide) (min_le_right ..)⟩

section Scanning

variable {byte : UInt8} {text : Bytes}

theorem unsigned_cons_of_isspace (space : isspace byte) :
    unsigned (byte :: text) = unsigned text := by
  rw [unsigned, List.dropWhile_cons_of_pos space, ← unsigned]

theorem isNegative_cons_of_isspace (space : isspace byte) :
    isNegative (byte :: text) = isNegative text := by
  rw [isNegative, List.dropWhile_cons_of_pos space, ← isNegative]

theorem length_unsigned_le (text : Bytes) :
    (unsigned text).length ≤ text.length := by
  have skipped : (text.dropWhile isspace).length ≤ text.length :=
    (List.dropWhile_suffix isspace).length_le
  unfold unsigned
  split
  case h_1 => exact Nat.zero_le _
  case h_2 byte rest found =>
    rw [found] at skipped
    split
    · exact Nat.le_of_succ_le skipped
    · exact skipped

theorem digitsAt_cons_of_isspace (space : isspace byte) :
    digitsAt (byte :: text) = digitsAt text + 1 := by
  have shorter := length_unsigned_le text
  simp only [digitsAt, unsigned_cons_of_isspace space, List.length_cons]
  omega

theorem scanInt_cons_of_isspace (space : isspace byte) :
    scanInt (byte :: text) = scanInt text := by
  rw [scanInt, scanInt, isNegative_cons_of_isspace space, digitsRead,
    digitsRead, unsigned_cons_of_isspace space]

theorem unsigned_cons_of_sign (sign : byte = 45 ∨ byte = 43) :
    unsigned (byte :: text) = text := by
  rcases sign with rfl | rfl <;> rfl

theorem unsigned_cons_of_plain (solid : ¬ isspace byte)
    (plain : ¬ (byte = 45 ∨ byte = 43)) :
    unsigned (byte :: text) = byte :: text := by
  rw [unsigned, List.dropWhile_cons_of_neg solid]
  simpa using plain

theorem isNegative_cons_of_not_isspace (solid : ¬ isspace byte) :
    isNegative (byte :: text) = decide (byte = 45) := by
  simp [isNegative, List.dropWhile_cons_of_neg solid]

theorem takeWhile_isdigit_take (text : Bytes) (length : Nat) :
    ((text.take length).takeWhile isdigit).map digitValue =
      ((text.takeWhile isdigit).map digitValue).take length := by
  rw [← List.take_takeWhile, List.map_take]

/-- What is read from a text that is cut off. -/
theorem digitsRead_take (text : Bytes) (length : Nat) :
    digitsRead (text.take length) =
      (digitsRead text).take (length - digitsAt text) := by
  induction text generalizing length with
  | nil => simp [digitsRead, unsigned]
  | cons byte text inductionHypothesis =>
      cases length with
      | zero => simp [digitsRead, unsigned]
      | succ length =>
          rw [List.take_succ_cons]
          by_cases space : isspace byte
          · rw [digitsAt_cons_of_isspace space, Nat.add_sub_add_right]
            simp only [digitsRead, unsigned_cons_of_isspace space]
            exact inductionHypothesis length
          · by_cases sign : byte = 45 ∨ byte = 43
            · simp only [digitsRead, digitsAt, unsigned_cons_of_sign sign,
                List.length_cons, Nat.add_sub_cancel_left,
                Nat.add_sub_cancel]
              exact takeWhile_isdigit_take text length
            · simp only [digitsRead, digitsAt,
                unsigned_cons_of_plain space sign, Nat.sub_self,
                Nat.sub_zero]
              exact takeWhile_isdigit_take (byte :: text) (length + 1)

/-- A text cut off within its white space has no digits left. -/
theorem isNegative_take (text : Bytes) (length : Nat)
    (read : digitsRead (text.take length) ≠ []) :
    isNegative (text.take length) = isNegative text := by
  induction text generalizing length with
  | nil => simp
  | cons byte text inductionHypothesis =>
      cases length with
      | zero => exact absurd rfl read
      | succ length =>
          rw [List.take_succ_cons] at read ⊢
          by_cases space : isspace byte
          · simp only [digitsRead, isNegative_cons_of_isspace space,
              unsigned_cons_of_isspace space] at read ⊢
            exact inductionHypothesis length read
          · simp only [isNegative_cons_of_not_isspace space]

theorem scanInt_take (text : Bytes) (length : Nat) :
    scanInt (text.take length) =
      signedValue (isNegative text)
        ((digitsRead text).take (length - digitsAt text)) := by
  rw [← digitsRead_take, scanInt]
  by_cases read : digitsRead (text.take length) = []
  · simp [signedValue, read]
  · rw [isNegative_take text length read]

end Scanning

section Decimal

theorem digitByte_toNat {digit : Nat} (small : digit < 10) :
    (digitByte digit).toNat = 48 + digit := by
  rw [digitByte, UInt8.toNat_ofNat', Nat.mod_eq_of_lt (by omega)]

theorem isdigit_digitByte {digit : Nat} (small : digit < 10) :
    isdigit (digitByte digit) := by
  simp only [isdigit, Bool.and_eq_true, decide_eq_true_eq,
    UInt8.le_iff_toNat_le, digitByte_toNat small]
  simp
  omega

theorem digitValue_digitByte {digit : Nat} (small : digit < 10) :
    digitValue (digitByte digit) = digit := by
  rw [digitValue, digitByte_toNat small, Nat.add_sub_cancel_left]

theorem not_isspace_of_isdigit {byte : UInt8} (digit : isdigit byte) :
    ¬ isspace byte := by
  simp only [isdigit, isspace, Bool.and_eq_true, Bool.or_eq_true,
    decide_eq_true_eq, UInt8.le_iff_toNat_le, UInt8.toNat_inj.symm] at digit ⊢
  simp at digit ⊢
  omega

theorem not_sign_of_isdigit {byte : UInt8} (digit : isdigit byte) :
    ¬ (byte = 45 ∨ byte = 43) := by
  rintro (rfl | rfl) <;> cases digit

theorem isdigit_of_mem_digits {n : Nat} {byte : UInt8}
    (member : byte ∈ (numeral 10 n).map digitByte) : isdigit byte := by
  obtain ⟨digit, listed, rfl⟩ := List.mem_map.mp member
  exact isdigit_digitByte (lt_of_mem_numeral (by decide) listed)

theorem digitValue_digits (n : Nat) :
    ((numeral 10 n).map digitByte).map digitValue = numeral 10 n := by
  rw [List.map_map]
  exact (List.map_congr_left fun digit listed =>
    digitValue_digitByte (lt_of_mem_numeral (by decide) listed)).trans
      (List.map_id _)

/-- The digits of a number, as they are written. -/
theorem digits_written (n : Nat) :
    ∃ byte rest, (numeral 10 n).map digitByte = byte :: rest ∧ isdigit byte ∧
      ((byte :: rest).takeWhile isdigit).map digitValue = numeral 10 n := by
  have nonempty : (numeral 10 n).map digitByte ≠ [] := by
    rw [ne_eq, List.map_eq_nil_iff]
    exact numeral_ne_nil n
  obtain ⟨byte, rest, written⟩ := List.exists_cons_of_ne_nil nonempty
  have all : ∀ byte ∈ (numeral 10 n).map digitByte, isdigit byte :=
    fun _ => isdigit_of_mem_digits
  refine ⟨byte, rest, written, ?_, ?_⟩
  · apply all
    rw [written]
    exact List.mem_cons_self
  · rw [← written, List.takeWhile_eq_self_iff.mpr all, digitValue_digits]

theorem scanInt_decimal (n : Int) : scanInt (decimal n) = some n := by
  obtain ⟨byte, rest, written, digit, read⟩ := digits_written n.natAbs
  have solid := not_isspace_of_isdigit digit
  rw [scanInt, decimal, written]
  by_cases negative : n < 0
  · simp only [if_pos negative]
    have minus : ¬ isspace 45 := by decide
    rw [isNegative_cons_of_not_isspace minus, digitsRead,
      unsigned_cons_of_sign (.inl rfl), read, signedValue,
      if_neg (numeral_ne_nil _), readNumeral_numeral, if_pos (by decide)]
    have value : -(n.natAbs : Int) = n := by omega
    rw [value]
  · simp only [if_neg negative]
    have plain : byte ≠ 45 := fun minus =>
      not_sign_of_isdigit digit (.inl minus)
    rw [isNegative_cons_of_not_isspace solid, digitsRead,
      unsigned_cons_of_plain solid (not_sign_of_isdigit digit), read,
      signedValue, if_neg (numeral_ne_nil _), readNumeral_numeral,
      if_neg (by simpa using plain)]
    have value : (n.natAbs : Int) = n := by omega
    rw [value]

theorem length_decimal_le {n : Int} (small : IsInt n) :
    (decimal n).length ≤ 11 := by
  have bounded : n.natAbs < 10 ^ 10 := by
    obtain ⟨above, below⟩ := isInt_iff.mp small
    omega
  have digits : (numeral 10 n.natAbs).length ≤ 10 :=
    length_numeral_le (by decide) (by decide) bounded
  unfold decimal
  split <;> simp only [List.length_cons, List.length_map] <;> omega

/-- There are only digits and a sign in it. -/
theorem notMem_decimal {byte : UInt8} (noDigit : ¬ isdigit byte)
    (noSign : byte ≠ 45) (n : Int) : byte ∉ decimal n := by
  have digits : byte ∉ (numeral 10 n.natAbs).map digitByte :=
    fun member => noDigit (isdigit_of_mem_digits member)
  unfold decimal
  split
  · rw [List.mem_cons, not_or]
    exact ⟨noSign, digits⟩
  · exact digits

theorem zero_notMem_decimal (n : Int) : (0 : UInt8) ∉ decimal n :=
  notMem_decimal (by decide) (by decide) n

end Decimal

theorem cString_of_notMem {text : Bytes} (clean : (0 : UInt8) ∉ text) :
    cString text = text := by
  apply List.takeWhile_eq_self_iff.mpr
  intro byte member
  have nonzero : byte ≠ 0 := fun zero => clean (zero ▸ member)
  simpa using nonzero

theorem snprintf_of_length_lt {text : Bytes} {size : Nat}
    (room : text.length < size) : snprintf size text = text :=
  List.take_of_length_le (by omega)

theorem cString_take (text : Bytes) (length : Nat) :
    cString (text.take length) = (cString text).take length :=
  List.take_takeWhile.symm

section Terminated

theorem cString_cons {byte : UInt8} (text : Bytes) (nonzero : byte ≠ 0) :
    cString (byte :: text) = byte :: cString text :=
  List.takeWhile_cons_of_pos (by simpa using nonzero)

theorem cString_cons_zero (text : Bytes) : cString (0 :: text) = [] := rfl

/-- A word is found before the NUL if it is found at all. -/
theorem startsWith_cString {word : Bytes} (clean : (0 : UInt8) ∉ word)
    (text : Bytes) : startsWith (cString text) word = startsWith text word := by
  induction word generalizing text with
  | nil => simp [startsWith]
  | cons byte word inductionHypothesis =>
      rw [List.mem_cons, not_or] at clean
      obtain ⟨nonzero, clean⟩ := clean
      cases text with
      | nil => rfl
      | cons head text =>
          by_cases zero : head = 0
          · subst zero
            simp [startsWith, cString_cons_zero, List.isPrefixOf_cons_cons,
              Ne.symm nonzero]
          · rw [cString_cons text zero]
            have same := inductionHypothesis clean text
            simp only [startsWith, List.isPrefixOf_cons_cons] at same ⊢
            rw [same]

theorem digits_cString (text : Bytes) :
    (cString text).takeWhile isdigit = text.takeWhile isdigit := by
  rw [cString, List.takeWhile_takeWhile]
  congr 1
  funext byte
  by_cases zero : byte = 0
  · subst zero
    rfl
  · simp [zero]

/-- Neither white space nor a sign nor a digit is a NUL. -/
theorem scanInt_cString (text : Bytes) :
    scanInt (cString text) = scanInt text := by
  induction text with
  | nil => rfl
  | cons byte text inductionHypothesis =>
      by_cases zero : byte = 0
      · subst zero
        rfl
      · rw [cString_cons text zero]
        by_cases space : isspace byte
        · rw [scanInt_cons_of_isspace space, scanInt_cons_of_isspace space,
            inductionHypothesis]
        · rw [scanInt, scanInt, isNegative_cons_of_not_isspace space,
            isNegative_cons_of_not_isspace space, digitsRead, digitsRead]
          by_cases sign : byte = 45 ∨ byte = 43
          · rw [unsigned_cons_of_sign sign, unsigned_cons_of_sign sign,
              digits_cString]
          · rw [unsigned_cons_of_plain space sign,
              unsigned_cons_of_plain space sign, ← cString_cons text zero,
              digits_cString]

end Terminated

end SysOp.Foundation
