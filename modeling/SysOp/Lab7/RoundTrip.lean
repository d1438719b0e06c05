import SysOp.Lab7.Server

/-!
# The client and the server together

What `client/main.c` sends and prints, and that the number it is given comes
back in the counter it prints.
-/

namespace SysOp.Lab7

open SysOp.Foundation

/-- `snprintf(tx_buffer, sizeof(tx_buffer), "ZADANIE %s", argv[3])` and what
`send` passes of it. -/
def clientRequest (number : Bytes) : Bytes :=
  cString (snprintf BUFFER_SIZE (bytes "ZADANIE " ++ number))

/-- What the client prints of the segment its `recv` finds. -/
def clientPrints (segment : Bytes) : Bytes :=
  cString (recv (BUFFER_SIZE - 1) segment) ++ bytes "\n"

theorem BUFFER_SIZE_eq : BUFFER_SIZE = 1024 := rfl

theorem zero_notMem_counterText (requestCounter : Int) :
    (0 : UInt8) ∉ counterText requestCounter := by
  simp only [counterText, List.mem_append, not_or]
  exact ⟨by decide, zero_notMem_decimal requestCounter⟩

theorem zero_notMem_request (n : Int) :
    (0 : UInt8) ∉ bytes "ZADANIE " ++ decimal n := by
  simp only [List.mem_append, not_or]
  exact ⟨by decide, zero_notMem_decimal n⟩

theorem length_counterText_lt {requestCounter : Int}
    (counted : IsInt requestCounter) :
    (counterText requestCounter).length < BUFFER_SIZE - 1 := by
  have digits := length_decimal_le counted
  have text : (bytes "Liczba pobrań strony: ").length = 23 := by decide
  rw [counterText, List.length_append, text, BUFFER_SIZE_eq]
  omega

theorem length_request_lt {n : Int} (given : IsInt n) :
    (bytes "ZADANIE " ++ decimal n).length < BUFFER_SIZE - 1 := by
  have digits := length_decimal_le given
  have word : (bytes "ZADANIE ").length = 8 := by decide
  rw [List.length_append, word, BUFFER_SIZE_eq]
  omega

theorem recv_of_length_lt {size : Nat} {segment : Bytes}
    (room : segment.length < size) : recv size segment = segment :=
  List.take_of_length_le (Nat.le_of_lt room)

/-- Nothing of the request is cut off. -/
theorem clientRequest_decimal {n : Int} (given : IsInt n) :
    clientRequest (decimal n) = bytes "ZADANIE " ++ decimal n := by
  have short := length_request_lt given
  rw [clientRequest, snprintf_of_length_lt (by omega),
    cString_of_notMem (zero_notMem_request n)]

/-- Nothing of the raw response is cut off. -/
theorem rawResponse_eq {requestCounter : Int}
    (counted : IsInt requestCounter) :
    rawResponse requestCounter = counterText requestCounter := by
  have short := length_counterText_lt counted
  rw [rawResponse, snprintf_of_length_lt (by omega),
    cString_of_notMem (zero_notMem_counterText requestCounter)]

/-- The request is a `ZADANIE` with the number the client was given. -/
theorem parse_request (conversion : IntConversion) {n : Int}
    (given : IsInt n) :
    parse conversion (bytes "ZADANIE " ++ decimal n) = .zadanie (some n) := by
  have spaced : bytes "ZADANIE " = Keyword.zadanie.text ++ [32] := by decide
  have starts : keyword (bytes "ZADANIE " ++ decimal n) = some .zadanie := by
    rw [keyword_eq_some_iff, spaced, List.append_assoc]
    exact List.isPrefixOf_iff_prefix.mpr (List.prefix_append ..)
  have scanned : scanZadanie (bytes "ZADANIE " ++ decimal n) = some n := by
    rw [scanZadanie, spaced, List.append_assoc, Keyword.text,
      List.drop_left, List.singleton_append,
      scanInt_cons_of_isspace (by decide), scanInt_decimal]
  rw [parse_eq, cString_of_notMem (zero_notMem_request n), starts, requestOf,
    scanned, Option.map_some, conversion.stored_of_isInt given]

/-- The number given to the client is added to the counter, and the counter
the client prints is read back as the sum.  No buffer cuts anything off. -/
theorem roundTrip (conversion : IntConversion) {n requestCounter : Int}
    (given : IsInt n) (sum : IsInt (requestCounter + n)) :
    recv (BUFFER_SIZE - 1) (clientRequest (decimal n)) =
        bytes "ZADANIE " ++ decimal n ∧
      parse conversion (recv (BUFFER_SIZE - 1) (clientRequest (decimal n))) =
        .zadanie (some n) ∧
      ∃ response,
        serve conversion requestCounter (clientRequest (decimal n)) =
          some (requestCounter + n, some response) ∧
        recv (BUFFER_SIZE - 1) response = response ∧
        clientPrints response =
          bytes "Liczba pobrań strony: " ++ decimal (requestCounter + n) ++
            bytes "\n" ∧
        scanInt (decimal (requestCounter + n)) = some (requestCounter + n) := by
  have received : recv (BUFFER_SIZE - 1) (clientRequest (decimal n)) =
      bytes "ZADANIE " ++ decimal n := by
    rw [clientRequest_decimal given, recv_of_length_lt (length_request_lt given)]
  have parsed := parse_request conversion given
  have returned := recv_of_length_lt (length_counterText_lt sum)
  refine ⟨received, received ▸ parsed, counterText (requestCounter + n), ?_,
    returned, ?_, scanInt_decimal _⟩
  · have nonempty : bytes "ZADANIE " ++ decimal n ≠ [] := by
      simp [bytes]
    rw [serve, received, if_neg nonempty, parsed, answer, addInt, if_pos sum,
      Option.map_some, rawResponse_eq sum]
  · rw [clientPrints, returned,
      cString_of_notMem (zero_notMem_counterText _), counterText]

theorem roundTrip_INT_MIN :
    ∃ response, serve .saturating 5 (clientRequest (decimal INT_MIN)) =
      some (-2147483643, some response) := by
  obtain ⟨_, _, response, served, _⟩ := roundTrip .saturating
    (show IsInt INT_MIN by decide) (show IsInt (5 + INT_MIN) by decide)
  exact ⟨response, served⟩

end SysOp.Lab7
