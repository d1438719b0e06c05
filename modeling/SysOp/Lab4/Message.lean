import Mathlib.Algebra.Group.Nat.Defs
import Mathlib.Data.List.Basic

/-!
# Messages and message queues

`ChatMessage` and the two POSIX calls the chat is built on.  A queue is the
list of its messages, oldest first; all messages have priority 0.
-/

namespace SysOp.Lab4

abbrev MAX_CLIENTS : Nat := 10

abbrev MAX_MSG : Nat := 10

abbrev MAX_Q_NAME : Nat := 64

/-- Nothing stops a sender from putting another `int` into the field. -/
inductive MessageType where
  | msgInit
  | msgIdAssign
  | msgText
  | unknown (value : Int)
  deriving DecidableEq

/-- The characters before the terminating NUL. -/
abbrev QueueName := List Char

structure ChatMessage where
  type : MessageType
  clientId : Int
  queueName : QueueName
  text : List Char
  deriving DecidableEq

/-- `ChatMessage msg = {0}`. -/
def ChatMessage.zeroed : ChatMessage where
  type := .msgInit
  clientId := 0
  queueName := []
  text := []

/-- `pid_t` is an `int`. -/
abbrev Pid := Fin (2 ^ 31)

/-- The text `/chat_client_` of the format string. -/
def clientQPrefix : List Char :=
  ['/', 'c', 'h', 'a', 't', '_', 'c', 'l', 'i', 'e', 'n', 't', '_']

/-- `snprintf(client_q_name, MAX_Q_NAME, "/chat_client_%d", getpid())`. -/
def clientQName (pid : Pid) : QueueName :=
  (clientQPrefix ++ Nat.toDigits 10 pid).take (MAX_Q_NAME - 1)

/-- Ten digits fit, so nothing is cut off. -/
theorem clientQName_eq (pid : Pid) :
    clientQName pid = clientQPrefix ++ Nat.toDigits 10 pid := by
  have small : pid.val < 10 ^ 10 := by omega
  have digits : (Nat.toDigits 10 pid).length ≤ 10 :=
    (Nat.length_toDigits_le_iff (by decide) (by decide)).mpr small
  apply List.take_of_length_le
  simp only [List.length_append, clientQPrefix, List.length_cons,
    List.length_nil, MAX_Q_NAME]
  omega

theorem clientQName_injective : Function.Injective clientQName := by
  intro first second same
  rw [clientQName_eq, clientQName_eq, List.append_cancel_left_eq] at same
  apply Fin.ext
  calc
    first.val = Nat.ofDigitChars 10 (Nat.toDigits 10 first) 0 :=
      Nat.ofDigitChars_ten_toDigits.symm
    _ = Nat.ofDigitChars 10 (Nat.toDigits 10 second) 0 := by rw [same]
    _ = second.val := Nat.ofDigitChars_ten_toDigits

/-- Without `O_NONBLOCK`, `mq_send` waits while the queue is full. -/
def mqSend (queue : List ChatMessage) (msg : ChatMessage) :
    Option (List ChatMessage) :=
  if queue.length < MAX_MSG then some (queue ++ [msg]) else none

/-- `mq_receive` waits while the queue is empty. -/
def mqReceive : List ChatMessage → Option (ChatMessage × List ChatMessage)
  | [] => none
  | msg :: rest => some (msg, rest)

@[simp]
theorem mqSend_eq_some_iff {queue after : List ChatMessage}
    {msg : ChatMessage} :
    mqSend queue msg = some after ↔
      queue.length < MAX_MSG ∧ after = queue ++ [msg] := by
  simp [mqSend, eq_comm]

@[simp]
theorem mqReceive_eq_some_iff {queue rest : List ChatMessage}
    {msg : ChatMessage} :
    mqReceive queue = some (msg, rest) ↔ queue = msg :: rest := by
  cases queue <;> simp [mqReceive]

end SysOp.Lab4
