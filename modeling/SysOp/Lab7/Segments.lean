import SysOp.Lab7.Server

/-!
# How a request is segmented

The server calls `recv` once, so of a request that TCP delivers in several
segments it sees the first alone.  The reply is right when that segment holds
the whole keyword and, after `ZADANIE`, the whole number.  A number cut off is
another one, unless it is zero; one that is no `int` may still be stored as the
part of it that is read.
-/

namespace SysOp.Lab7

open SysOp.Foundation

/-- The segments TCP delivers a payload in. -/
structure Segments (payload : Bytes) where
  first : Bytes
  rest : List Bytes
  nonempty : ∀ segment ∈ first :: rest, segment ≠ []
  whole : (first :: rest).flatten = payload

/-- What a `ZADANIE` request adds. -/
def taskValue (conversion : IntConversion) (segment : Bytes) : Int :=
  ((scanZadanie (cString segment)).map conversion.stored).getD 0

/-- Where the number of a `ZADANIE` request ends. -/
def numberEnd (text : Bytes) : Nat :=
  let argument := text.drop Keyword.zadanie.text.length
  Keyword.zadanie.text.length + digitsAt argument +
    (digitsRead argument).length

/-- The number is in the first bytes as it is in the text, or cutting it off
does no harm. -/
def NumberTold (conversion : IntConversion) (text : Bytes) (length : Nat) :
    Prop :=
  numberEnd text ≤ length ∨ scanZadanie text = none ∨
    scanZadanie text = some 0 ∨
    ∃ value, scanZadanie text = some value ∧ ¬ IsInt value ∧
      conversion.stored ((scanZadanie (text.take length)).getD 0) =
        conversion.stored value

/-- The first segment tells as much as the payload. -/
def Telling (conversion : IntConversion) (payload first : Bytes) : Prop :=
  ∀ word, keyword (cString payload) = some word →
    word.text.length ≤ first.length ∧
      (word = .zadanie →
        NumberTold conversion (cString payload) first.length)

theorem Segments.first_eq {payload : Bytes} (segments : Segments payload) :
    segments.first = payload.take segments.first.length := by
  calc
    segments.first =
        (segments.first ++ segments.rest.flatten).take
          segments.first.length := List.take_left.symm
    _ = payload.take segments.first.length := by
        rw [← List.flatten_cons, segments.whole]

theorem scanZadanie_take (text : Bytes) (length : Nat) :
    scanZadanie (text.take length) =
      scanInt ((text.drop Keyword.zadanie.text.length).take
        (length - Keyword.zadanie.text.length)) := by
  rw [scanZadanie, List.drop_take]
  rfl

/-- Nothing is missing of a number that ends before the cut. -/
theorem scanZadanie_take_of_le {text : Bytes} {length : Nat}
    (reached : numberEnd text ≤ length) :
    scanZadanie (text.take length) = scanZadanie text := by
  have enough : (digitsRead (text.drop Keyword.zadanie.text.length)).length ≤
      length - Keyword.zadanie.text.length -
        digitsAt (text.drop Keyword.zadanie.text.length) := by
    simp only [numberEnd] at reached
    omega
  rw [scanZadanie_take, scanInt_take, List.take_of_length_le enough]
  rfl

section Serving

variable {conversion : IntConversion} {requestCounter : Int}

theorem answer_zadanie (counted : IsInt requestCounter) (value : Option Int) :
    answer requestCounter (.zadanie value) =
      (addInt requestCounter (value.getD 0)).map fun requestCounter =>
        (requestCounter, some (rawResponse requestCounter)) := by
  cases value with
  | none => simp [answer, addInt, counted]
  | some taskValue => rfl

theorem taskValue_eq_stored (conversion : IntConversion) (segment : Bytes) :
    taskValue conversion segment =
      conversion.stored ((scanZadanie (cString segment)).getD 0) := by
  unfold taskValue
  cases scanZadanie (cString segment) with
  | none =>
      have zero : IsInt 0 := by decide
      exact (conversion.stored_of_isInt zero).symm
  | some value => rfl

theorem isInt_taskValue (conversion : IntConversion) (segment : Bytes) :
    IsInt (taskValue conversion segment) := by
  rw [taskValue_eq_stored]
  exact conversion.isInt_stored _

theorem serve_eq_answer {segment : Bytes} (nonempty : segment ≠ [])
    (short : segment.length < BUFFER_SIZE) :
    serve conversion requestCounter segment =
      answer requestCounter (parse conversion segment) := by
  have received : recv (BUFFER_SIZE - 1) segment = segment :=
    List.take_of_length_le (by omega)
  rw [serve, received, if_neg nonempty]

/-- Two `ZADANIE` requests are answered alike at every counter exactly when
they add the same. -/
theorem answer_zadanie_eq_iff (first second : Option Int)
    (small : IsInt (first.getD 0)) :
    (∀ requestCounter, IsInt requestCounter →
      answer requestCounter (.zadanie first) =
        answer requestCounter (.zadanie second)) ↔
      first.getD 0 = second.getD 0 := by
  constructor
  · intro same
    have zero := same 0 (by decide)
    rw [answer_zadanie (by decide), answer_zadanie (by decide), addInt,
      Int.zero_add, if_pos small, addInt, Int.zero_add] at zero
    split at zero
    case isTrue => exact congrArg Prod.fst (Option.some.inj zero)
    case isFalse => cases zero
  · intro same requestCounter counted
    rw [answer_zadanie counted, answer_zadanie counted, same]

/-- Other requests are not answered like unknown ones. -/
theorem answer_zero_ne_unknown {request : Request}
    (known : request ≠ .unknown)
    (small : ∀ value, request = .zadanie value → IsInt (value.getD 0)) :
    answer 0 request ≠ answer 0 .unknown := by
  cases request with
  | http => simp [answer, addInt, isInt_iff]
  | zadanie value =>
      rw [answer_zadanie (by decide), addInt, Int.zero_add,
        if_pos (small value rfl)]
      simp [answer]
  | unknown => exact absurd rfl known

theorem parse_take (conversion : IntConversion) (payload : Bytes)
    (length : Nat) :
    parse conversion (payload.take length) =
      requestOf conversion (cString (payload.take length))
        ((keyword (cString payload)).filter
          fun word => word.text.length ≤ length) := by
  rw [parse_eq, ← keyword_take, cString_take]

theorem isInt_of_parse {segment : Bytes} {value : Option Int}
    (parsed : parse conversion segment = .zadanie value) :
    IsInt (value.getD 0) := by
  rw [parse_eq] at parsed
  unfold requestOf at parsed
  split at parsed <;> cases parsed
  exact isInt_taskValue conversion segment

end Serving

/-- A number cut off within its digits is smaller, unless it is zero. -/
theorem signedValue_take {negative : Bool} {digits : List Nat}
    {places : Nat} {value short : Int}
    (whole : signedValue negative digits = some value)
    (part : signedValue negative (digits.take places) = some short)
    (cut : places < digits.length) (nonzero : value ≠ 0) :
    0 ≤ short ∧ short < value ∨ value < short ∧ short ≤ 0 := by
  have more : digits.drop places ≠ [] := by
    simpa [List.drop_eq_nil_iff] using cut
  have fewer := readNumeral_take_le (by decide : 1 < 10) digits places
  have differ : readNumeral 10 0 digits =
      readNumeral 10 0 (digits.take places) ↔
        readNumeral 10 0 digits = 0 := by
    rw [readNumeral_split digits places]
    exact readNumeral_eq_self_iff (by decide) more
  unfold signedValue at whole part
  cases negative <;> simp_all <;> omega

theorem taskValue_take_ne (conversion : IntConversion) {payload : Bytes}
    {length : Nat} {value : Int}
    (scanned : scanZadanie (cString payload) = some value)
    (small : IsInt value) (nonzero : value ≠ 0)
    (cut : length < numberEnd (cString payload)) :
    taskValue conversion (payload.take length) ≠ value := by
  rw [taskValue, cString_take, scanZadanie_take, scanInt_take]
  cases part : signedValue _ _ with
  | none => simpa using nonzero.symm
  | some short =>
      generalize argued : (cString payload).drop Keyword.zadanie.text.length =
        argument at part
      have whole : signedValue (isNegative argument) (digitsRead argument) =
          some value := by
        rw [← argued]
        exact scanned
      have nonempty : digitsRead argument ≠ [] := by
        intro none
        rw [none] at whole
        simp [signedValue] at whole
      have positive := List.length_pos_of_ne_nil nonempty
      simp only [numberEnd, argued] at cut
      have between := signedValue_take whole part (by omega) nonzero
      have exact : IsInt short := by
        obtain ⟨above, below⟩ := isInt_iff.mp small
        rw [isInt_iff]
        omega
      rw [Option.map_some, Option.getD_some, conversion.stored_of_isInt exact]
      omega

section Cutting

variable {text : Bytes}

theorem signedValue_eq_none_iff {negative : Bool} {digits : List Nat} :
    signedValue negative digits = none ↔ digits = [] := by
  unfold signedValue
  split
  case isTrue empty => simp [empty]
  case isFalse some =>
    split <;> simp [some]

theorem scanZadanie_take_none (length : Nat)
    (scanned : scanZadanie text = none) :
    scanZadanie (text.take length) = none := by
  have empty := signedValue_eq_none_iff.mp scanned
  rw [scanZadanie_take, scanInt_take, signedValue_eq_none_iff]
  exact (congrArg _ empty).trans List.take_nil

/-- All digits of zero are zeros. -/
theorem signedValue_take_zero {negative : Bool} {digits : List Nat}
    (whole : signedValue negative digits = some 0) (places : Nat) :
    (signedValue negative (digits.take places)).getD 0 = 0 := by
  have zero : readNumeral 10 0 digits = 0 := by
    unfold signedValue at whole
    cases negative <;> simp_all
  have fewer := readNumeral_take_le (by decide : 1 < 10) digits places
  have part : readNumeral 10 0 (digits.take places) = 0 := by omega
  unfold signedValue
  cases negative <;> split <;> simp [part]

theorem scanZadanie_take_zero (length : Nat)
    (scanned : scanZadanie text = some 0) :
    (scanZadanie (text.take length)).getD 0 = 0 := by
  rw [scanZadanie_take, scanInt_take]
  exact signedValue_take_zero scanned _

/-- The part that is read adds what the number adds exactly when the number
is told. -/
theorem taskValue_take_iff (conversion : IntConversion) (payload : Bytes)
    (length : Nat) :
    taskValue conversion (payload.take length) =
        taskValue conversion payload ↔
      NumberTold conversion (cString payload) length := by
  rw [NumberTold]
  by_cases reached : numberEnd (cString payload) ≤ length
  · rw [taskValue, cString_take, scanZadanie_take_of_le reached, ← taskValue]
    simp [reached]
  · have cut := Nat.lt_of_not_le reached
    cases scanned : scanZadanie (cString payload) with
    | none =>
        rw [taskValue, cString_take, scanZadanie_take_none length scanned]
        simp [taskValue, scanned]
    | some value =>
        have whole : taskValue conversion payload = conversion.stored value := by
          rw [taskValue, scanned]
          rfl
        by_cases zero : value = 0
        · subst zero
          rw [taskValue_eq_stored, cString_take,
            scanZadanie_take_zero length scanned, whole]
          simp
        · by_cases small : IsInt value
          · have other := taskValue_take_ne conversion scanned small zero cut
            rw [whole, conversion.stored_of_isInt small]
            simp [reached, zero, small, other]
          · rw [taskValue_eq_stored, cString_take, whole]
            simp [reached, zero, small]

end Cutting

/-- The answer to the first segment is the answer to the payload exactly when
the segment tells as much. -/
theorem serve_first_iff (conversion : IntConversion) {payload : Bytes}
    (segments : Segments payload) (short : payload.length < BUFFER_SIZE) :
    (∀ requestCounter, IsInt requestCounter →
      serve conversion requestCounter segments.first =
        serve conversion requestCounter payload) ↔
      Telling conversion payload segments.first := by
  have nonempty : segments.first ≠ [] :=
    segments.nonempty _ List.mem_cons_self
  have within : segments.first.length ≤ payload.length := by
    rw [segments.first_eq]
    exact List.length_take_le' ..
  have filled : payload ≠ [] := by
    rintro rfl
    exact nonempty (List.eq_nil_of_length_eq_zero (Nat.le_zero.mp within))
  have parsed := parse_take conversion payload segments.first.length
  have told := taskValue_take_iff conversion payload segments.first.length
  rw [← segments.first_eq] at parsed told
  have whole := parse_eq conversion payload
  simp only [serve_eq_answer nonempty (Nat.lt_of_le_of_lt within short),
    serve_eq_answer filled short, parsed, whole]
  cases found : keyword (cString payload) with
  | none => simp [Telling, found, requestOf]
  | some word =>
      by_cases reached : word.text.length ≤ segments.first.length
      · rw [Option.filter_some_pos (by simpa using reached)]
        cases word with
        | get | post => simp [Telling, found, reached, requestOf]
        | zadanie =>
            have same := answer_zadanie_eq_iff _
              ((scanZadanie (cString payload)).map conversion.stored)
              (isInt_taskValue conversion segments.first)
            simp only [Telling, found, requestOf, same]
            rw [← told]
            constructor
            · rintro told word ⟨rfl⟩
              exact ⟨reached, fun _ => told⟩
            · intro telling
              exact (telling .zadanie rfl).2 rfl
      · rw [Option.filter_some_neg (by simpa using reached)]
        constructor
        · intro same
          rw [found] at whole
          have known : requestOf conversion (cString payload) (some word) ≠
              .unknown := by
            cases word <;> simp [requestOf]
          refine absurd (same 0 (by decide)).symm
            (answer_zero_ne_unknown known ?_)
          intro value asked
          exact isInt_of_parse (whole.trans asked)
        · intro telling
          exact absurd (telling word found).1 reached

/-- The number is cut between its digits. -/
def cutNumber : Segments (bytes "ZADANIE 123") where
  first := bytes "ZADANIE 1"
  rest := [bytes "23"]
  nonempty := by decide
  whole := by decide

theorem serve_cutNumber : ¬ ∀ (conversion : IntConversion) {payload : Bytes}
    (segments : Segments payload) (requestCounter : Int),
    payload.length < BUFFER_SIZE → IsInt requestCounter →
      serve conversion requestCounter segments.first =
        serve conversion requestCounter payload := by
  intro always
  have same := always .saturating cutNumber 0 (by decide) (by decide)
  exact absurd same (by decide +kernel)

/-- The number is cut after its end. -/
def wholeNumber : Segments (bytes "ZADANIE 123\n") where
  first := bytes "ZADANIE 123"
  rest := [bytes "\n"]
  nonempty := by decide
  whole := by decide

theorem serve_first_iff_wholeNumber :
    (∀ requestCounter, IsInt requestCounter →
      serve .saturating requestCounter wholeNumber.first =
        serve .saturating requestCounter (bytes "ZADANIE 123\n")) ↔
      Telling .saturating (bytes "ZADANIE 123\n") wholeNumber.first :=
  serve_first_iff .saturating wholeNumber (by decide)

end SysOp.Lab7
