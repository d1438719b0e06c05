import SysOp.Foundation.RunningSum
import SysOp.Lab7.Segments

/-!
# The counter over many connections

What `REQUEST_COUNTER` should be is a sum over the payloads, read as a whole.
The server adds one term after the other, and of each payload it reads what
`rx_buffer` holds.  The counter is exact while the buffer cuts off no number
and the sums on the way are `int`s, and whatever the order of arrival only if
the gains alone and the losses alone are.
-/

namespace SysOp.Lab7

open SysOp.Foundation

section

variable (conversion : IntConversion)

/-- The value of a payload of the form `ZADANIE <int>`. -/
def zadanieValue (payload : Bytes) : Option Int :=
  if startsWith payload (bytes "ZADANIE") then
    (scanInt (payload.drop 7)).map conversion.stored
  else none

/-- What `REQUEST_COUNTER` should be, in exact arithmetic. -/
def exactCount (payloads : List Bytes) : Int :=
  payloads.countP isHttp +
    (payloads.filterMap (zadanieValue conversion)).sum

def increment (payload : Bytes) : Int :=
  (if isHttp payload then 1 else 0) +
    (zadanieValue conversion payload).getD 0

/-- `request_counter` after connections that each deliver one payload in one
segment; `none` when an addition on the way overflows. -/
def serveAll : Int → List Bytes → Option Int
  | requestCounter, [] => some requestCounter
  | requestCounter, payload :: rest =>
      (serve conversion requestCounter payload).bind
        fun (requestCounter, _) => serveAll requestCounter rest

end

/-- What `rx_buffer` holds of a payload. -/
def held (payload : Bytes) : Bytes :=
  recv (BUFFER_SIZE - 1) payload

/-- `rx_buffer` holds the number of a command. -/
def Legible (conversion : IntConversion) (payload : Bytes) : Prop :=
  startsWith payload (bytes "ZADANIE") →
    NumberTold conversion (cString payload) (BUFFER_SIZE - 1)

/-- After every connection `request_counter` is what it should be. -/
def CountedExactly (conversion : IntConversion) (payloads : List Bytes) :
    Prop :=
  ∀ served, served <+: payloads →
    serveAll conversion 0 served = some (exactCount conversion served)

def Request.increment : Request → Int
  | .http => 1
  | .zadanie value => value.getD 0
  | .unknown => 0

variable {conversion : IntConversion} {requestCounter : Int}
  {payload : Bytes} {payloads : List Bytes}

theorem addInt_eq_boundedAdd (first second : Int) :
    addInt first second = boundedAdd INT_MIN INT_MAX first second := rfl

theorem addInt_zero (counted : IsInt requestCounter) :
    addInt requestCounter 0 = some requestCounter := by
  simp [addInt, counted]

theorem isInt_of_addInt {first second sum : Int}
    (added : addInt first second = some sum) : IsInt sum := by
  unfold addInt at added
  split at added
  case isTrue small => cases added; exact small
  case isFalse => cases added

theorem answer_counter (counted : IsInt requestCounter) (request : Request) :
    (answer requestCounter request).map Prod.fst =
      addInt requestCounter request.increment := by
  cases request with
  | http => simp [answer, Request.increment, Function.comp_def]
  | zadanie value =>
      cases value with
      | none => simp [answer, Request.increment, addInt_zero counted]
      | some taskValue => simp [answer, Request.increment, Function.comp_def]
  | unknown => simp [answer, Request.increment, addInt_zero counted]

theorem not_zadanie_of_isHttp (http : isHttp payload) :
    ¬ startsWith payload (bytes "ZADANIE") := by
  intro zadanie
  rcases Bool.or_eq_true_iff.mp http with get | post
  · have same : Keyword.get = .zadanie := startsWith_unique get zadanie
    cases same
  · have same : Keyword.post = .zadanie := startsWith_unique post zadanie
    cases same

theorem zadanieValue_of_isHttp (http : isHttp payload) :
    zadanieValue conversion payload = none :=
  if_neg (not_zadanie_of_isHttp http)

/-- A NUL ends the text for the server, and the number for `%d` anyway. -/
theorem zadanieValue_cString (conversion : IntConversion) (text : Bytes) :
    zadanieValue conversion (cString text) = zadanieValue conversion text := by
  have absent : (0 : UInt8) ∉ bytes "ZADANIE" := by decide
  have clean : ∀ byte ∈ bytes "ZADANIE", byte ≠ 0 := by
    rintro byte member rfl
    exact absent member
  rw [zadanieValue, zadanieValue, startsWith_cString absent]
  by_cases starts : startsWith text (bytes "ZADANIE")
  · obtain ⟨rest, rfl⟩ := List.isPrefixOf_iff_prefix.mp starts
    have argument : cString (bytes "ZADANIE" ++ rest) =
        bytes "ZADANIE" ++ cString rest :=
      List.takeWhile_append_of_pos (by simpa using clean)
    rw [argument]
    have length : (bytes "ZADANIE").length = 7 := rfl
    rw [← length, List.drop_left, List.drop_left, scanInt_cString]
  · simp [starts]

/-- The server reads a text as its bytes say. -/
theorem parse_increment (conversion : IntConversion) (text : Bytes) :
    (parse conversion text).increment = increment conversion text := by
  have read : parse conversion text =
      if isHttp (cString text) then .http
      else if startsWith (cString text) (bytes "ZADANIE") then
        .zadanie ((scanZadanie (cString text)).map conversion.stored)
      else .unknown := rfl
  rw [increment, ← isHttp_cString, ← zadanieValue_cString, read]
  by_cases http : isHttp (cString text)
  · rw [if_pos http, if_pos http, zadanieValue_of_isHttp http]
    rfl
  · rw [if_neg http, if_neg http, zadanieValue]
    split
    case isTrue => exact (Int.zero_add _).symm
    case isFalse => rfl

theorem serve_counter (counted : IsInt requestCounter) :
    (serve conversion requestCounter payload).map Prod.fst =
      addInt requestCounter (increment conversion (held payload)) := by
  rw [serve, ← parse_increment, ← held]
  by_cases empty : held payload = []
  · have nothing : parse conversion [] = .unknown := rfl
    simp [empty, nothing, Request.increment, addInt_zero counted]
  · simp only [if_neg empty]
    exact answer_counter counted _

theorem serveAll_cons (counted : IsInt requestCounter) :
    serveAll conversion requestCounter (payload :: payloads) =
      (addInt requestCounter (increment conversion (held payload))).bind
        fun requestCounter => serveAll conversion requestCounter payloads := by
  rw [← serve_counter counted, Option.bind_map]
  rfl

theorem serveAll_eq_boundedSum (counted : IsInt requestCounter) :
    serveAll conversion requestCounter payloads =
      boundedSum INT_MIN INT_MAX requestCounter
        ((payloads.map held).map (increment conversion)) := by
  induction payloads generalizing requestCounter with
  | nil => rfl
  | cons payload payloads inductionHypothesis =>
      rw [serveAll_cons counted, List.map_cons, List.map_cons, boundedSum,
        ← addInt_eq_boundedAdd]
      apply Option.bind_congr
      intro sum added
      exact inductionHypothesis (isInt_of_addInt added)

/-- No payload counts both as a page and as a command. -/
theorem sum_increment :
    (payloads.map (increment conversion)).sum =
      exactCount conversion payloads := by
  induction payloads with
  | nil => rfl
  | cons payload payloads inductionHypothesis =>
      rw [List.map_cons, List.sum_cons, inductionHypothesis, exactCount,
        exactCount, List.countP_cons, List.filterMap_cons, increment]
      cases zadanieValue conversion payload with
      | none =>
          split
          all_goals simp
          omega
      | some value => split <;> simp <;> omega

theorem exactCount_perm {order : List Bytes} (reordered : order.Perm payloads) :
    exactCount conversion order = exactCount conversion payloads := by
  rw [← sum_increment, ← sum_increment]
  exact (reordered.map _).sum_eq

/-- A command adds what its number says. -/
theorem increment_of_zadanie (zadanie : startsWith payload (bytes "ZADANIE")) :
    increment conversion payload = taskValue conversion payload := by
  have absent : (0 : UInt8) ∉ bytes "ZADANIE" := by decide
  have text : startsWith (cString payload) (bytes "ZADANIE") := by
    rwa [startsWith_cString absent]
  have page : ¬ isHttp payload :=
    fun http => not_zadanie_of_isHttp http zadanie
  rw [increment, if_neg page, Int.zero_add, ← zadanieValue_cString,
    zadanieValue, if_pos text]
  rfl

/-- The buffer takes nothing from a payload exactly if it holds the number. -/
theorem legible_iff :
    Legible conversion payload ↔
      increment conversion (held payload) = increment conversion payload := by
  have fits : (bytes "ZADANIE").length ≤ BUFFER_SIZE - 1 := by decide
  have same : startsWith (held payload) (bytes "ZADANIE") =
      startsWith payload (bytes "ZADANIE") := by
    rw [held, recv, startsWith_take, decide_eq_true fits, Bool.and_true]
  by_cases zadanie : startsWith payload (bytes "ZADANIE")
  · rw [increment_of_zadanie zadanie,
      increment_of_zadanie (same.trans zadanie), held, recv,
      taskValue_take_iff, Legible]
    exact forall_prop_of_true zadanie
  · have page : isHttp (held payload) = isHttp payload := isHttp_recv payload
    have shorter : zadanieValue conversion (held payload) = none :=
      if_neg (by rwa [same])
    have whole : zadanieValue conversion payload = none := if_neg zadanie
    rw [increment, increment, page, shorter, whole, Legible]
    exact iff_of_true (fun starts => absurd starts zadanie) rfl

theorem legible_of_length_lt (short : payload.length < BUFFER_SIZE) :
    Legible conversion payload := by
  have whole : held payload = payload :=
    List.take_of_length_le (Nat.le_sub_one_of_lt short)
  rw [legible_iff, whole]

theorem map_increment_held
    (legible : ∀ payload ∈ payloads, Legible conversion payload) :
    (payloads.map held).map (increment conversion) =
      payloads.map (increment conversion) := by
  rw [List.map_map]
  exact List.map_congr_left fun payload member =>
    legible_iff.mp (legible payload member)

theorem serveAll_eq_some_iff {total : Int} :
    serveAll conversion 0 payloads = some total ↔
      exactCount conversion (payloads.map held) = total ∧
        Within INT_MIN INT_MAX 0
          ((payloads.map held).map (increment conversion)) := by
  rw [serveAll_eq_boundedSum (by decide), ← sum_increment]
  constructor
  · intro summed
    have exact := boundedSum_eq_some summed
    rw [Int.zero_add] at exact
    refine ⟨exact.symm, ?_⟩
    rw [← boundedSum_isSome_iff (by decide), summed]
    rfl
  · rintro ⟨rfl, within⟩
    rw [← boundedSum_eq_some_sum_iff (by decide), Int.zero_add] at within
    exact within

/-- Before and after a connection the counter is exact, so what the buffer
holds adds what it should. -/
theorem CountedExactly.legible (counted : CountedExactly conversion payloads) :
    ∀ payload ∈ payloads, Legible conversion payload := by
  intro payload member
  obtain ⟨before, behind, rfl⟩ := List.append_of_mem member
  have earlier := counted before (List.prefix_append ..)
  have later := counted (before ++ [payload]) ⟨behind, by simp⟩
  replace earlier := (serveAll_eq_some_iff.mp earlier).1
  replace later := (serveAll_eq_some_iff.mp later).1
  simp only [← sum_increment, List.map_append, List.map_singleton,
    List.sum_append, List.sum_singleton] at earlier later
  rw [legible_iff]
  omega

/-- In one order of arrival the sums on the way have to be `int`s. -/
theorem countedExactly_iff :
    CountedExactly conversion payloads ↔
      (∀ payload ∈ payloads, Legible conversion payload) ∧
        Within INT_MIN INT_MAX 0 (payloads.map (increment conversion)) := by
  constructor
  · intro counted
    have legible := counted.legible
    have all := counted payloads List.prefix_rfl
    refine ⟨legible, ?_⟩
    rw [← map_increment_held legible]
    exact (serveAll_eq_some_iff.mp all).2
  · rintro ⟨legible, within⟩ served before
    have kept := map_increment_held fun payload member =>
      legible payload (before.mem member)
    rw [serveAll_eq_some_iff, ← sum_increment, ← sum_increment, kept]
    refine ⟨rfl, ?_⟩
    intro past earlier
    exact within past (earlier.trans (before.map _))

/-- The counter is exact after every connection, whatever the order of
arrival, exactly if the buffer holds every number and the gains alone and the
losses alone are `int`s. -/
theorem serveAll_exact_iff (conversion : IntConversion)
    (payloads : List Bytes) :
    ((∀ order, order.Perm payloads →
        CountedExactly conversion order ∧
          serveAll conversion 0 order =
            some (exactCount conversion payloads)) ↔
      (∀ payload ∈ payloads, Legible conversion payload) ∧
        INT_MIN ≤ losses (payloads.map (increment conversion)) ∧
        gains (payloads.map (increment conversion)) ≤ INT_MAX) ∧
    ∀ payload, payload.length < BUFFER_SIZE → Legible conversion payload := by
  refine ⟨?_, fun payload => legible_of_length_lt⟩
  have orders : (∀ order : List Bytes, order.Perm payloads →
      Within INT_MIN INT_MAX 0 (order.map (increment conversion))) ↔
        INT_MIN ≤ 0 + losses (payloads.map (increment conversion)) ∧
          0 + gains (payloads.map (increment conversion)) ≤ INT_MAX :=
    within_perm_iff _ payloads
  rw [Int.zero_add, Int.zero_add] at orders
  rw [← orders]
  constructor
  · intro every
    refine ⟨(every payloads (.refl _)).1.legible, ?_⟩
    intro order reordered
    exact (countedExactly_iff.mp (every order reordered).1).2
  · rintro ⟨legible, within⟩ order reordered
    have counted : CountedExactly conversion order :=
      countedExactly_iff.mpr
        ⟨fun payload member => legible payload (reordered.mem_iff.mp member),
          within order reordered⟩
    refine ⟨counted, ?_⟩
    rw [counted order List.prefix_rfl, exactCount_perm reordered]

/-- Pages, commands with and without a number, and what is neither. -/
def mixed : List Bytes :=
  [bytes "GET / HTTP/1.1", bytes "ZADANIE -7\n", bytes "POST /x", bytes "",
    bytes "ZADANIE", bytes "HEAD /", bytes "ZADANIE 12abc"]

theorem serveAll_exact_iff_mixed :
    ∀ order, order.Perm mixed → serveAll .saturating 0 order = some 7 := by
  have exact : exactCount .saturating mixed = 7 := by decide +kernel
  have short : ∀ payload ∈ mixed, payload.length < BUFFER_SIZE := by
    decide +kernel
  obtain ⟨orders, legible⟩ := serveAll_exact_iff .saturating mixed
  rw [exact] at orders
  intro order reordered
  refine (orders.mpr ⟨?_, by decide +kernel, by decide +kernel⟩ order
    reordered).2
  exact fun payload member => legible payload (short payload member)

/-- A number behind the end of the buffer is not read. -/
example :
    let payload := bytes "ZADANIE" ++ List.replicate 1016 32 ++ bytes "5"
    exactCount .saturating [payload] = 5 ∧
      serveAll .saturating 0 [payload] = some 0 := by
  decide +kernel

/-- One client brings the counter to its greatest value, the next adds one. -/
def overflowing : List Bytes :=
  [bytes "ZADANIE 2147483647", bytes "GET / HTTP/1.1"]

theorem serveAll_overflowing : ¬ ∀ (conversion : IntConversion)
    (payloads : List Bytes),
    serveAll conversion 0 payloads = some (exactCount conversion payloads) := by
  intro always
  have exact := always .saturating overflowing
  have undefined : serveAll .saturating 0 overflowing = none := by
    decide +kernel
  rw [undefined] at exact
  cases exact

end SysOp.Lab7
