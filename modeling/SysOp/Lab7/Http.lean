import SysOp.Lab7.RoundTrip

/-!
# The HTTP response

What a reader makes of the bytes the server sends: a status line and fields up
to the first empty line, then as many bytes as the field `Content-Length` says.
-/

namespace SysOp.Lab7

open SysOp.Foundation

def crlf : Bytes := [13, 10]

/-- The lines before the first empty one, and what is behind it; `line` is what
has been read of the current line. -/
def headLines : Bytes → Bytes → Option (List Bytes × Bytes)
  | line, 13 :: 10 :: rest =>
      if line = [] then some ([], rest)
      else
        (headLines [] rest).map fun (lines, body) => (line :: lines, body)
  | line, byte :: rest => headLines (line ++ [byte]) rest
  | _, [] => none

/-- Names of fields are the same in small and capital letters. -/
def lower (byte : UInt8) : UInt8 :=
  if 65 ≤ byte && byte ≤ 90 then byte + 32 else byte

/-- A value that consists of digits, behind white space. -/
def lengthValue (text : Bytes) : Option Nat :=
  let digits := text.dropWhile isspace
  if digits ≠ [] ∧ digits.all isdigit then
    some (readNumeral 10 0 (digits.map digitValue))
  else none

def contentLength (fields : List Bytes) : Option Nat :=
  let name := bytes "content-length:"
  (fields.find? fun field => startsWith (field.map lower) name).bind
    fun field => lengthValue (field.drop name.length)

structure HttpMessage where
  status : Bytes
  fields : List Bytes
  body : Bytes
  deriving DecidableEq

/-- The message at the beginning of what has been received, and what is left
over. -/
def readHttp (received : Bytes) : Option (HttpMessage × Bytes) :=
  match headLines [] received with
  | some (status :: fields, rest) =>
      (contentLength fields).bind fun length =>
        if length ≤ rest.length then
          some (⟨status, fields, rest.take length⟩, rest.drop length)
        else none
  | _ => none

/-- The whole of what `snprintf` is given for the response. -/
def httpText (requestCounter : Int) : Bytes :=
  httpHeader ++ decimal (counterText requestCounter).length ++
    bytes "\r\n\r\n" ++ counterText requestCounter

def httpStatus : Bytes := bytes "HTTP/1.1 200 OK"

def constantFields : List Bytes :=
  [bytes "Server: Zajeciowy serwer SO",
    bytes "Content-Type: text/plain; charset=utf-8",
    bytes "Connection: close",
    bytes "Cache-Control: no-store"]

def lengthField (requestCounter : Int) : Bytes :=
  bytes "Content-Length: " ++ decimal (counterText requestCounter).length

def httpFields (requestCounter : Int) : List Bytes :=
  constantFields ++ [lengthField requestCounter]

section Decoding

theorem headLines_cons {byte : UInt8} (other : byte ≠ 13) (line rest : Bytes) :
    headLines line (byte :: rest) = headLines (line ++ [byte]) rest := by
  cases rest with
  | nil => rw [headLines]; simp
  | cons next rest => rw [headLines]; simp [other]

theorem headLines_append {text : Bytes} (clean : (13 : UInt8) ∉ text)
    (line rest : Bytes) :
    headLines line (text ++ rest) = headLines (line ++ text) rest := by
  induction text generalizing line with
  | nil => rw [List.nil_append, List.append_nil]
  | cons byte text inductionHypothesis =>
      obtain ⟨other, clean⟩ := not_or.mp (mt List.mem_cons.mpr clean)
      rw [List.cons_append, headLines_cons (Ne.symm other),
        inductionHypothesis clean, List.append_assoc, List.singleton_append]

/-- A line that is not empty is read up to its end. -/
theorem headLines_line {text : Bytes} (clean : (13 : UInt8) ∉ text)
    (some : text ≠ []) (rest : Bytes) :
    headLines [] (text ++ (crlf ++ rest)) =
      (headLines [] rest).map fun (lines, body) => (text :: lines, body) := by
  rw [headLines_append clean, List.nil_append, crlf, List.cons_append,
    List.cons_append, List.nil_append, headLines, if_neg some]

theorem headLines_lines {lines : List Bytes}
    (proper : ∀ line ∈ lines, (13 : UInt8) ∉ line ∧ line ≠ []) (body : Bytes) :
    headLines [] (lines.flatMap (· ++ crlf) ++ (crlf ++ body)) =
      some (lines, body) := by
  induction lines with
  | nil => rfl
  | cons line lines inductionHypothesis =>
      obtain ⟨⟨clean, nonempty⟩, others⟩ := List.forall_mem_cons.mp proper
      rw [List.flatMap_cons, List.append_assoc, List.append_assoc,
        headLines_line clean nonempty, inductionHypothesis others]
      rfl

theorem lengthValue_decimal (n : Nat) :
    lengthValue (32 :: decimal n) = some n := by
  have written : decimal (n : Int) = (numeral 10 n).map digitByte := by
    rw [decimal, if_neg (by omega), Int.natAbs_natCast]
  obtain ⟨byte, rest, digits, first, _⟩ := digits_written n
  have solid : (32 :: decimal (n : Int)).dropWhile isspace = decimal n := by
    rw [List.dropWhile_cons_of_pos (by decide), written, digits,
      List.dropWhile_cons_of_neg (not_isspace_of_isdigit first)]
  have all : (decimal (n : Int)).all isdigit := by
    rw [List.all_eq_true, written]
    exact fun _ => isdigit_of_mem_digits
  have nonempty : decimal (n : Int) ≠ [] := by
    rw [written, digits]
    exact List.cons_ne_nil _ _
  rw [lengthValue, solid, if_pos ⟨nonempty, all⟩, written, digitValue_digits,
    readNumeral_numeral]

end Decoding

section Response

variable {requestCounter : Int}

/-- The response line by line. -/
theorem httpText_eq (requestCounter : Int) :
    httpText requestCounter =
      (httpStatus :: httpFields requestCounter).flatMap (· ++ crlf) ++
        (crlf ++ counterText requestCounter) := by
  have header : httpHeader =
      (httpStatus :: constantFields).flatMap (· ++ crlf) ++
        bytes "Content-Length: " := by decide +kernel
  have ending : bytes "\r\n\r\n" = crlf ++ crlf := by decide
  rw [httpText, header, ending, httpFields, lengthField, ← List.cons_append,
    List.flatMap_append, List.flatMap_singleton]
  simp only [List.append_assoc]

theorem lines_proper (requestCounter : Int) :
    ∀ line ∈ httpStatus :: httpFields requestCounter,
      (13 : UInt8) ∉ line ∧ line ≠ [] := by
  have constant : ∀ line ∈ httpStatus :: constantFields,
      (13 : UInt8) ∉ line ∧ line ≠ [] := by decide +kernel
  intro line member
  rw [httpFields, ← List.cons_append, List.mem_append,
    List.mem_singleton] at member
  rcases member with listed | rfl
  · exact constant line listed
  · rw [lengthField, List.mem_append, not_or]
    exact ⟨⟨by decide, notMem_decimal (by decide) (by decide) _⟩,
      by simp [bytes]⟩

theorem contentLength_httpFields (requestCounter : Int) :
    contentLength (httpFields requestCounter) =
      some (counterText requestCounter).length := by
  have others : constantFields.find?
      (fun field => startsWith (field.map lower) (bytes "content-length:")) =
      none := by decide +kernel
  have name : (lengthField requestCounter).map lower = bytes "content-length:" ++
      (32 :: decimal (counterText requestCounter).length).map lower := by
    have letters : (bytes "Content-Length: ").map lower =
        bytes "content-length:" ++ [32] := by decide +kernel
    rw [lengthField, List.map_append, letters, List.append_assoc]
    rfl
  have value : (lengthField requestCounter).drop
      (bytes "content-length:").length =
      32 :: decimal (counterText requestCounter).length := by
    have split : bytes "Content-Length: " = bytes "Content-Length:" ++ [32] := by
      decide
    rw [lengthField, split, List.append_assoc]
    exact List.drop_left' (by decide)
  have found : startsWith ((lengthField requestCounter).map lower)
      (bytes "content-length:") := by
    rw [name]
    exact List.isPrefixOf_iff_prefix.mpr (List.prefix_append _ _)
  have last : [lengthField requestCounter].find?
      (fun field => startsWith (field.map lower) (bytes "content-length:")) =
      some (lengthField requestCounter) := List.find?_cons_of_pos found
  rw [contentLength, httpFields, List.find?_append, others, Option.none_or,
    last, Option.bind_some, value, lengthValue_decimal]

/-- A reader finds the body the server has counted, and nothing behind it. -/
theorem readHttp_httpText (requestCounter : Int) :
    readHttp (httpText requestCounter) =
      some (⟨httpStatus, httpFields requestCounter,
        counterText requestCounter⟩, []) := by
  rw [readHttp, httpText_eq, headLines_lines (lines_proper requestCounter)]
  dsimp only
  rw [contentLength_httpFields, Option.bind_some, if_pos le_rfl,
    List.take_length, List.drop_length]

theorem zero_notMem_httpText (requestCounter : Int) :
    (0 : UInt8) ∉ httpText requestCounter := by
  simp only [httpText, List.mem_append, not_or]
  exact ⟨⟨⟨by decide, zero_notMem_decimal _⟩, by decide⟩,
    zero_notMem_counterText requestCounter⟩

theorem length_httpText_lt (counted : IsInt requestCounter) :
    (httpText requestCounter).length < BUFFER_SIZE * 2 := by
  have body := length_counterText_lt counted
  have header : httpHeader.length ≤ 200 := by decide +kernel
  have ending : (bytes "\r\n\r\n").length = 4 := by decide
  have length : IsInt (counterText requestCounter).length := by
    rw [isInt_iff]
    rw [BUFFER_SIZE_eq] at body
    omega
  have digits := length_decimal_le length
  rw [BUFFER_SIZE_eq] at body ⊢
  simp only [httpText, List.length_append, ending]
  omega

/-- The response is sent whole. -/
theorem httpResponse_eq (counted : IsInt requestCounter) :
    httpResponse requestCounter = httpText requestCounter := by
  have body := length_counterText_lt counted
  have whole : snprintf BUFFER_SIZE (counterText requestCounter) =
      counterText requestCounter := snprintf_of_length_lt (by omega)
  rw [httpResponse, whole]
  change cString (snprintf _ (httpText requestCounter)) = _
  rw [snprintf_of_length_lt (length_httpText_lt counted),
    cString_of_notMem (zero_notMem_httpText requestCounter)]

/-- The response to a `GET` or `POST` is sent whole, and whoever reads it by its
`Content-Length` gets the counter's text and nothing else. -/
theorem http_framed (counted : IsInt requestCounter) :
    snprintf BUFFER_SIZE (counterText requestCounter) =
        counterText requestCounter ∧
      snprintf (BUFFER_SIZE * 2) (httpText requestCounter) =
        httpText requestCounter ∧
      (httpResponse requestCounter).length =
        (httpText requestCounter).length ∧
      readHttp (httpResponse requestCounter) =
        some (⟨httpStatus, httpFields requestCounter,
          bytes "Liczba pobrań strony: " ++ decimal requestCounter⟩, []) ∧
      ∀ (conversion : IntConversion) (before : Int) (segment : Bytes),
        isHttp segment → addInt before 1 = some requestCounter →
        serve conversion before segment =
          some (requestCounter, some (httpResponse requestCounter)) := by
  have body := length_counterText_lt counted
  refine ⟨snprintf_of_length_lt (by omega),
    snprintf_of_length_lt (length_httpText_lt counted), ?_, ?_, ?_⟩
  · rw [httpResponse_eq counted]
  · rw [httpResponse_eq counted, readHttp_httpText, counterText]
  · intro conversion before segment http added
    exact serve_of_isHttp conversion http added

/-- A `GET` at the counter -2. -/
theorem http_framed_negative :
    ∃ response, serve .saturating (-2) (bytes "GET / HTTP/1.1\r\n\r\n") =
        some (-1, some response) ∧
      readHttp response =
        some (⟨httpStatus, httpFields (-1),
          bytes "Liczba pobrań strony: " ++ bytes "-1"⟩, []) := by
  have text : decimal (-1) = bytes "-1" := by decide +kernel
  obtain ⟨_, _, _, read, served⟩ := http_framed (by decide : IsInt (-1))
  rw [text] at read
  exact ⟨_, served _ _ _ (by decide +kernel) (by decide), read⟩

end Response

end SysOp.Lab7
