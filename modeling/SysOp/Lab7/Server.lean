import SysOp.Foundation.Text

/-!
# The counting server

One connection of `server/main.c`: what the single `recv` returns is parsed
and answered.  The sum of two values of type `int` may be none, which the
standard leaves undefined.
-/

namespace SysOp.Lab7

open SysOp.Foundation

abbrev BUFFER_SIZE : Nat := 1024

/-- What the contents of `rx_buffer` ask for. -/
inductive Request where
  | http
  | zadanie (taskValue : Option Int)
  | unknown
  deriving DecidableEq

/-- `recv`, when the peer has sent this segment. -/
def recv (size : Nat) (segment : Bytes) : Bytes :=
  segment.take size

/-- `sscanf(text, "ZADANIE %d", &task_value)`, for a text that starts so. -/
def scanZadanie (text : Bytes) : Option Int :=
  scanInt (text.drop (bytes "ZADANIE").length)

def parse (conversion : IntConversion) (rxBuffer : Bytes) : Request :=
  let text := cString rxBuffer
  if startsWith text (bytes "GET") || startsWith text (bytes "POST") then
    .http
  else if startsWith text (bytes "ZADANIE") then
    .zadanie ((scanZadanie text).map conversion.stored)
  else
    .unknown

def addInt (first second : Int) : Option Int :=
  if IsInt (first + second) then some (first + second) else none

/-- `"Liczba pobrań strony: %d"`. -/
def counterText (requestCounter : Int) : Bytes :=
  bytes "Liczba pobrań strony: " ++ decimal requestCounter

def httpHeader : Bytes :=
  bytes "HTTP/1.1 200 OK\r\n" ++
    bytes "Server: Zajeciowy serwer SO\r\n" ++
    bytes "Content-Type: text/plain; charset=utf-8\r\n" ++
    bytes "Connection: close\r\n" ++
    bytes "Cache-Control: no-store\r\n" ++
    bytes "Content-Length: "

/-- `snprintf` returns the length of the whole body, cut off or not. -/
def httpResponse (requestCounter : Int) : Bytes :=
  let bodyLen := (counterText requestCounter).length
  let httpBody := snprintf BUFFER_SIZE (counterText requestCounter)
  let txBuffer := snprintf (BUFFER_SIZE * 2)
    (httpHeader ++ decimal bodyLen ++ bytes "\r\n\r\n" ++ httpBody)
  cString txBuffer

def rawResponse (requestCounter : Int) : Bytes :=
  cString (snprintf (BUFFER_SIZE * 2) (counterText requestCounter))

/-- `request_counter` after a request and what is sent for it; `none` when an
addition overflows. -/
def answer (requestCounter : Int) : Request → Option (Int × Option Bytes)
  | .http =>
      (addInt requestCounter 1).map fun requestCounter =>
        (requestCounter, some (httpResponse requestCounter))
  | .zadanie (some taskValue) =>
      (addInt requestCounter taskValue).map fun requestCounter =>
        (requestCounter, some (rawResponse requestCounter))
  | .zadanie none => some (requestCounter, some (rawResponse requestCounter))
  | .unknown => some (requestCounter, none)

/-- One connection, on which `recv` finds this segment; it is empty if the
client sends nothing. -/
def serve (conversion : IntConversion) (requestCounter : Int)
    (segment : Bytes) : Option (Int × Option Bytes) :=
  let rxBuffer := recv (BUFFER_SIZE - 1) segment
  if rxBuffer = [] then some (requestCounter, none)
  else answer requestCounter (parse conversion rxBuffer)

inductive Keyword where
  | get
  | post
  | zadanie
  deriving DecidableEq

def Keyword.text : Keyword → Bytes
  | .get => bytes "GET"
  | .post => bytes "POST"
  | .zadanie => bytes "ZADANIE"

def keyword (text : Bytes) : Option Keyword :=
  if startsWith text Keyword.get.text then some .get
  else if startsWith text Keyword.post.text then some .post
  else if startsWith text Keyword.zadanie.text then some .zadanie
  else none

/-- What a text with this keyword asks for. -/
def requestOf (conversion : IntConversion) (text : Bytes) :
    Option Keyword → Request
  | some .get | some .post => .http
  | some .zadanie => .zadanie ((scanZadanie text).map conversion.stored)
  | none => .unknown

theorem parse_eq (conversion : IntConversion) (rxBuffer : Bytes) :
    parse conversion rxBuffer =
      requestOf conversion (cString rxBuffer) (keyword (cString rxBuffer)) := by
  simp only [parse, keyword, Keyword.text, Bool.or_eq_true]
  by_cases get : startsWith (cString rxBuffer) (bytes "GET")
  · simp [get, requestOf]
  · by_cases post : startsWith (cString rxBuffer) (bytes "POST")
    · simp [get, post, requestOf]
    · by_cases zadanie : startsWith (cString rxBuffer) (bytes "ZADANIE")
      · simp [get, post, zadanie, requestOf]
      · simp [get, post, zadanie, requestOf]

theorem startsWith_take (text word : Bytes) (length : Nat) :
    startsWith (text.take length) word =
      (startsWith text word && decide (word.length ≤ length)) := by
  rw [Bool.eq_iff_iff, Bool.and_eq_true, decide_eq_true_eq]
  simp only [startsWith, List.isPrefixOf_iff_prefix, List.prefix_take_iff]

/-- A request for the page, by its bytes. -/
def isHttp (payload : Bytes) : Bool :=
  startsWith payload (bytes "GET") || startsWith payload (bytes "POST")

theorem isHttp_cString (text : Bytes) :
    isHttp (cString text) = isHttp text := by
  have get : (0 : UInt8) ∉ bytes "GET" := by decide
  have post : (0 : UInt8) ∉ bytes "POST" := by decide
  rw [isHttp, isHttp, startsWith_cString get, startsWith_cString post]

/-- The buffer holds both words. -/
theorem isHttp_recv (segment : Bytes) :
    isHttp (recv (BUFFER_SIZE - 1) segment) = isHttp segment := by
  have get : (bytes "GET").length ≤ BUFFER_SIZE - 1 := by decide
  have post : (bytes "POST").length ≤ BUFFER_SIZE - 1 := by decide
  simp only [isHttp, recv, startsWith_take, get, post, decide_true,
    Bool.and_true]

theorem parse_of_isHttp (conversion : IntConversion) {text : Bytes}
    (http : isHttp text) : parse conversion text = .http := by
  rw [← isHttp_cString] at http
  exact if_pos http

/-- A request for the page is answered with it, unless the counter is at its
end. -/
theorem serve_of_isHttp (conversion : IntConversion) {requestCounter next : Int}
    {segment : Bytes} (http : isHttp segment)
    (counted : addInt requestCounter 1 = some next) :
    serve conversion requestCounter segment =
      some (next, some (httpResponse next)) := by
  rw [← isHttp_recv] at http
  have nonempty : recv (BUFFER_SIZE - 1) segment ≠ [] := by
    intro empty
    rw [empty] at http
    cases http
  rw [serve, if_neg nonempty, parse_of_isHttp conversion http, answer, counted]
  rfl

theorem startsWith_unique {text : Bytes} {first second : Keyword}
    (one : startsWith text first.text) (other : startsWith text second.text) :
    first = second := by
  have comparable := List.prefix_or_prefix_of_prefix
    (List.isPrefixOf_iff_prefix.mp one) (List.isPrefixOf_iff_prefix.mp other)
  cases first <;> cases second <;>
    first | rfl | exact absurd comparable (by decide)

theorem keyword_eq_some_iff {text : Bytes} {word : Keyword} :
    keyword text = some word ↔ startsWith text word.text := by
  unfold keyword
  constructor
  · intro found
    split at found
    case isTrue get => cases found; exact get
    case isFalse =>
      split at found
      case isTrue post => cases found; exact post
      case isFalse =>
        split at found
        case isTrue zadanie => cases found; exact zadanie
        case isFalse => cases found
  · intro starts
    split
    case isTrue get => rw [startsWith_unique get starts]
    case isFalse noGet =>
      split
      case isTrue post => rw [startsWith_unique post starts]
      case isFalse noPost =>
        split
        case isTrue zadanie => rw [startsWith_unique zadanie starts]
        case isFalse noZadanie => cases word <;> contradiction

/-- A keyword is found in a text that is cut off if all of it is there. -/
theorem keyword_take (text : Bytes) (length : Nat) :
    keyword (text.take length) =
      (keyword text).filter fun word => word.text.length ≤ length := by
  apply Option.ext
  intro word
  rw [keyword_eq_some_iff, startsWith_take, Bool.and_eq_true,
    Option.filter_eq_some_iff, keyword_eq_some_iff]

end SysOp.Lab7
