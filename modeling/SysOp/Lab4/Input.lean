import Mathlib.Algebra.Order.BigOperators.Group.List
import SysOp.Lab4.Chat

/-!
# The user's lines as messages

The sender reads its input with `fgets` and sends what it gets unless that is
just a newline.  A line that does not fit is read in parts; when the parts are
full just before the newline, that newline is read alone and taken for an empty
line.
-/

namespace SysOp.Lab4

abbrev MAX_TEXT : Nat := 256

/-- What is there up to and with the next newline, as far as there is room, and
what is behind it. -/
def readLine : Nat → List Char → List Char × List Char
  | 0, stdin => ([], stdin)
  | _ + 1, [] => ([], [])
  | room + 1, c :: rest =>
      if c = '\n' then ([c], rest)
      else
        let (line, rest) := readLine room rest
        (c :: line, rest)

/-- `fgets(text, size, stdin)`: the text and the input after it, or `NULL`. -/
def fgets (text : List Char) (size : Nat) (stdin : List Char) :
    Option (List Char × List Char) :=
  match readLine (size - 1) stdin with
  | ([], _) => none
  | (line, rest) => some (line ++ '\x00' :: text.drop (line.length + 1), rest)

/-- The string an array of characters holds. -/
def cString (text : List Char) : List Char :=
  text.takeWhile (· ≠ '\x00')

/-- The sender with its `out_msg.text`. -/
structure Sender where
  text : List Char
  stdin : List Char

namespace Sender

/-- `ChatMessage out_msg = {0}`. -/
def start (stdin : List Char) : Sender where
  text := List.replicate MAX_TEXT '\x00'
  stdin := stdin

/-- One iteration of the sender's loop, and what it sends. -/
def iterate (myId : Int) (sender : Sender) : Sender × List ChatMessage :=
  match fgets sender.text MAX_TEXT sender.stdin with
  | none => (sender, [])
  | some (text, stdin) =>
      ({ text, stdin },
        if cString text = ['\n'] then []
        else [Client.outMsg myId (cString text)])

def run (myId : Int) : Nat → Sender → Sender × List ChatMessage
  | 0, sender => (sender, [])
  | n + 1, sender =>
      let (next, sent) := sender.iterate myId
      let (last, later) := next.run myId n
      (last, sent ++ later)

end Sender

/-- The text of all messages together. -/
def sentText (messages : List ChatMessage) : List Char :=
  messages.flatMap ChatMessage.text

/-- The lines as they are typed. -/
def input (lines : List (List Char)) : List Char :=
  lines.flatMap fun line => line ++ ['\n']

/-- No newline and no NUL in it. -/
def Plain (line : List Char) : Prop := '\n' ∉ line ∧ '\x00' ∉ line

instance (line : List Char) : Decidable (Plain line) :=
  inferInstanceAs (Decidable (_ ∧ _))

/-- What the server gets of a line. -/
def delivered (line : List Char) : List Char :=
  if MAX_TEXT - 1 ∣ line.length then line else line ++ ['\n']

theorem Plain.take {line : List Char} (plain : Plain line) (n : Nat) :
    Plain (line.take n) :=
  ⟨fun member => plain.1 (List.mem_of_mem_take member),
    fun member => plain.2 (List.mem_of_mem_take member)⟩

theorem Plain.drop {line : List Char} (plain : Plain line) (n : Nat) :
    Plain (line.drop n) :=
  ⟨fun member => plain.1 (List.mem_of_mem_drop member),
    fun member => plain.2 (List.mem_of_mem_drop member)⟩

section Reading

variable {line rest : List Char} {room : Nat}

theorem readLine_of_length_lt (clean : '\n' ∉ line) (short : line.length < room) :
    readLine room (line ++ '\n' :: rest) = (line ++ ['\n'], rest) := by
  induction line generalizing room with
  | nil =>
      cases room with
      | zero => cases short
      | succ room => rfl
  | cons c line inductionHypothesis =>
      obtain ⟨other, clean⟩ := not_or.mp (mt List.mem_cons.mpr clean)
      cases room with
      | zero => cases short
      | succ room =>
          have read := inductionHypothesis clean (Nat.lt_of_succ_lt_succ short)
          simp only [List.cons_append, readLine, if_neg (Ne.symm other), read]

theorem readLine_of_length_ge (clean : '\n' ∉ line) (long : room ≤ line.length)
    (more : List Char) :
    readLine room (line ++ more) = (line.take room, line.drop room ++ more) := by
  induction room generalizing line with
  | zero => rfl
  | succ room inductionHypothesis =>
      cases line with
      | nil => cases long
      | cons c line =>
          obtain ⟨other, clean⟩ := not_or.mp (mt List.mem_cons.mpr clean)
          have read := inductionHypothesis clean (Nat.le_of_succ_le_succ long)
          simp only [List.cons_append, readLine, if_neg (Ne.symm other), read,
            List.take_succ_cons, List.drop_succ_cons]

theorem cString_append (clean : '\x00' ∉ line) (behind : List Char) :
    cString (line ++ '\x00' :: behind) = line := by
  have before : ∀ c ∈ line, decide (c ≠ '\x00') = true := by
    intro c member
    rw [decide_eq_true_eq]
    rintro rfl
    exact clean member
  rw [cString, List.takeWhile_append_of_pos before]
  simp

end Reading

namespace Sender

variable {line rest : List Char}

theorem iterate_of_readLine (myId : Int) (text : List Char)
    {stdin : List Char}
    (read : readLine (MAX_TEXT - 1) stdin = (line, rest)) (some : line ≠ [])
    (clean : '\x00' ∉ line) :
    ∃ after, iterate myId ⟨text, stdin⟩ = (⟨after, rest⟩,
      if line = ['\n'] then [] else [Client.outMsg myId line]) := by
  refine ⟨line ++ '\x00' :: text.drop (line.length + 1), ?_⟩
  obtain ⟨c, line, rfl⟩ := List.exists_cons_of_ne_nil some
  rw [iterate, fgets, read]
  dsimp only
  rw [cString_append clean]

/-- The rest of a line with its newline. -/
theorem iterate_of_length_lt (myId : Int) (text : List Char)
    (plain : Plain line) (short : line.length < MAX_TEXT - 1) :
    ∃ after, iterate myId ⟨text, line ++ '\n' :: rest⟩ = (⟨after, rest⟩,
      if line = [] then [] else [Client.outMsg myId (line ++ ['\n'])]) := by
  have clean : '\x00' ∉ line ++ ['\n'] := by simpa using plain.2
  obtain ⟨after, read⟩ := iterate_of_readLine myId text
    (readLine_of_length_lt plain.1 short) (by simp) clean
  refine ⟨after, read.trans ?_⟩
  simp

/-- A full part of a line. -/
theorem iterate_of_length_ge (myId : Int) (text : List Char)
    (plain : Plain line) (long : MAX_TEXT - 1 ≤ line.length)
    (more : List Char) :
    ∃ after, iterate myId ⟨text, line ++ more⟩ =
      (⟨after, line.drop (MAX_TEXT - 1) ++ more⟩,
        [Client.outMsg myId (line.take (MAX_TEXT - 1))]) := by
  have full : (line.take (MAX_TEXT - 1)).length = MAX_TEXT - 1 :=
    List.length_take_of_le long
  have other : line.take (MAX_TEXT - 1) ≠ ['\n'] := by
    intro same
    rw [same] at full
    cases full
  have some : line.take (MAX_TEXT - 1) ≠ [] := by
    intro none
    rw [none] at full
    cases full
  obtain ⟨after, read⟩ := iterate_of_readLine myId text
    (readLine_of_length_ge plain.1 long more) some (plain.take _).2
  refine ⟨after, read.trans ?_⟩
  rw [if_neg other]

theorem run_succ {myId : Int} {sender next : Sender} {sent : List ChatMessage}
    (first : sender.iterate myId = (next, sent)) (n : Nat) :
    sender.run myId (n + 1) =
      ((next.run myId n).1, sent ++ (next.run myId n).2) := by
  rw [run, first]

theorem run_add (myId : Int) (m n : Nat) (sender : Sender) :
    sender.run myId (m + n) =
      (((sender.run myId m).1.run myId n).1,
        (sender.run myId m).2 ++ ((sender.run myId m).1.run myId n).2) := by
  induction m generalizing sender with
  | zero => simp [run]
  | succ m inductionHypothesis =>
      rw [Nat.succ_add, run_succ rfl, run_succ rfl, inductionHypothesis]
      simp

/-- Behind the end of the input nothing more is sent. -/
theorem run_of_stdin_nil (myId : Int) (n : Nat) {sender : Sender}
    (ended : sender.stdin = []) : sender.run myId n = (sender, []) := by
  induction n with
  | zero => rfl
  | succ n inductionHypothesis =>
      have idle : sender.iterate myId = (sender, []) := by
        rw [iterate, fgets, ended]
        rfl
      rw [run_succ idle, inductionHypothesis]
      rfl

theorem run_ended_of_le {myId : Int} {sender : Sender} {m n : Nat}
    (order : m ≤ n) (ended : (sender.run myId m).1.stdin = []) :
    sender.run myId n = sender.run myId m := by
  obtain ⟨d, rfl⟩ := Nat.exists_eq_add_of_le order
  rw [run_add, run_of_stdin_nil myId d ended, List.append_nil]

/-- What has been sent when all input has been read. -/
theorem run_ended {myId : Int} {sender : Sender} {m n : Nat}
    (one : (sender.run myId m).1.stdin = [])
    (other : (sender.run myId n).1.stdin = []) :
    sender.run myId m = sender.run myId n := by
  rcases Nat.le_total m n with order | order
  · exact (run_ended_of_le order one).symm
  · exact run_ended_of_le order other

end Sender

theorem delivered_of_length_lt {line : List Char}
    (short : line.length < MAX_TEXT - 1) :
    delivered line = if line = [] then [] else line ++ ['\n'] := by
  unfold delivered
  split
  case isTrue divides =>
    have empty := Nat.eq_zero_of_dvd_of_lt divides short
    rw [if_pos (List.length_eq_zero_iff.mp empty)]
    exact List.length_eq_zero_iff.mp empty
  case isFalse odd =>
    rw [if_neg]
    rintro rfl
    exact odd (Nat.dvd_zero _)

theorem delivered_of_length_ge {line : List Char}
    (long : MAX_TEXT - 1 ≤ line.length) :
    delivered line =
      line.take (MAX_TEXT - 1) ++ delivered (line.drop (MAX_TEXT - 1)) := by
  have same : MAX_TEXT - 1 ∣ (line.drop (MAX_TEXT - 1)).length ↔
      MAX_TEXT - 1 ∣ line.length := by
    rw [List.length_drop, ← Nat.dvd_add_self_right, Nat.sub_add_cancel long]
  unfold delivered
  simp only [same]
  split
  · rw [List.take_append_drop]
  · rw [← List.append_assoc, List.take_append_drop]

section Lines

variable {myId : Int} {line : List Char} {lines : List (List Char)}

/-- A line is sent part by part. -/
theorem run_line (plain : Plain line) (text rest : List Char) :
    ∃ n after sent,
      Sender.run myId n ⟨text, line ++ '\n' :: rest⟩ = (⟨after, rest⟩, sent) ∧
        sentText sent = delivered line := by
  induction size : line.length using Nat.strong_induction_on
    generalizing line text with
  | _ bound inductionHypothesis =>
      rcases Nat.lt_or_ge line.length (MAX_TEXT - 1) with short | long
      · obtain ⟨after, first⟩ :=
          Sender.iterate_of_length_lt myId text plain short
        refine ⟨1, after, _, (Sender.run_succ first 0).trans rfl, ?_⟩
        rw [delivered_of_length_lt short]
        split <;> simp [Sender.run, sentText, Client.outMsg]
      · obtain ⟨middle, first⟩ :=
          Sender.iterate_of_length_ge myId text plain long ('\n' :: rest)
        have shorter : (line.drop (MAX_TEXT - 1)).length < bound := by
          rw [List.length_drop, ← size]
          exact Nat.sub_lt (Nat.lt_of_lt_of_le (by decide) long) (by decide)
        obtain ⟨n, after, sent, later, text⟩ :=
          inductionHypothesis _ shorter (plain.drop _) middle rfl
        refine ⟨n + 1, after,
          Client.outMsg myId (line.take (MAX_TEXT - 1)) :: sent, ?_, ?_⟩
        · rw [Sender.run_succ first, later]
          rfl
        · rw [delivered_of_length_ge long, ← text]
          rfl

theorem run_lines (plain : ∀ line ∈ lines, Plain line) (text : List Char) :
    ∃ n, (Sender.run myId n ⟨text, input lines⟩).1.stdin = [] ∧
      sentText (Sender.run myId n ⟨text, input lines⟩).2 =
        lines.flatMap delivered := by
  induction lines generalizing text with
  | nil => exact ⟨0, rfl, rfl⟩
  | cons line lines inductionHypothesis =>
      obtain ⟨first, others⟩ := List.forall_mem_cons.mp plain
      obtain ⟨m, middle, sent, read, delivers⟩ :=
        run_line first text (input lines)
      obtain ⟨n, ended, later⟩ := inductionHypothesis others middle
      have split : input (line :: lines) = line ++ '\n' :: input lines := by
        simp [input]
      refine ⟨m + n, ?_⟩
      rw [split, Sender.run_add, read]
      refine ⟨ended, ?_⟩
      rw [sentText, List.flatMap_append, ← sentText, ← sentText, delivers,
        later, List.flatMap_cons]

/-- What the server gets of a line is the line with its newline, or less. -/
theorem length_delivered_le (line : List Char) :
    (delivered line).length ≤
      (if line = [] then [] else line ++ ['\n']).length := by
  unfold delivered
  split
  · split
    case isTrue empty => rw [empty]
    case isFalse => simp
  case isFalse odd =>
    rw [if_neg]
    rintro rfl
    exact odd (Nat.dvd_zero _)

theorem delivered_eq_iff (line : List Char) :
    delivered line = (if line = [] then [] else line ++ ['\n']) ↔
      (line ≠ [] → ¬ MAX_TEXT - 1 ∣ line.length) := by
  unfold delivered
  by_cases empty : line = []
  · simp [empty]
  · simp [empty]

theorem input_filter (lines : List (List Char)) :
    input (lines.filter (· ≠ [])) =
      lines.flatMap fun line => if line = [] then [] else line ++ ['\n'] := by
  induction lines with
  | nil => rfl
  | cons line lines inductionHypothesis =>
      rw [List.flatMap_cons, ← inductionHypothesis]
      by_cases empty : line = []
      · simp [empty]
      · simp [empty, input]

/-- When no piece is longer than its counterpart, the wholes are equal only if
the pieces are. -/
theorem flatMap_eq_iff {Item Element : Type} {items : List Item}
    {f g : Item → List Element}
    (shorter : ∀ item, (f item).length ≤ (g item).length) :
    items.flatMap f = items.flatMap g ↔ ∀ item ∈ items, f item = g item := by
  constructor
  · intro same
    induction items with
    | nil => exact fun _ member => by cases member
    | cons item items inductionHypothesis =>
        rw [List.flatMap_cons, List.flatMap_cons] at same
        have others : (items.flatMap f).length ≤ (items.flatMap g).length := by
          rw [List.length_flatMap, List.length_flatMap]
          exact List.sum_le_sum fun item _ => shorter item
        have first := shorter item
        have total := congrArg List.length same
        rw [List.length_append, List.length_append] at total
        obtain ⟨one, rest⟩ := List.append_inj same (by omega)
        exact List.forall_mem_cons.mpr ⟨one, inductionHypothesis rest⟩
  · exact List.flatMap_congr

/-- Nothing is missing of a sequence of lines when nothing is of any line. -/
theorem delivered_lines_iff (lines : List (List Char)) :
    lines.flatMap delivered = input (lines.filter (· ≠ [])) ↔
      ∀ line ∈ lines, line ≠ [] → ¬ MAX_TEXT - 1 ∣ line.length := by
  rw [input_filter, flatMap_eq_iff length_delivered_le]
  exact forall₂_congr fun line _ => delivered_eq_iff line

/-- The messages together are the lines that are not empty exactly when none of
them has just as many characters as some full parts. -/
theorem sent_iff_uneven (plain : ∀ line ∈ lines, Plain line) (myId : Int) :
    (∃ n, ((Sender.start (input lines)).run myId n).1.stdin = []) ∧
      ∀ n, ((Sender.start (input lines)).run myId n).1.stdin = [] →
        (sentText ((Sender.start (input lines)).run myId n).2 =
            input (lines.filter (· ≠ [])) ↔
          ∀ line ∈ lines, line ≠ [] → ¬ MAX_TEXT - 1 ∣ line.length) := by
  obtain ⟨n, ended, delivers⟩ := run_lines plain
    (List.replicate MAX_TEXT '\x00')
  refine ⟨⟨n, ended⟩, ?_⟩
  intro m endedToo
  rw [Sender.run_ended endedToo ended, ← delivered_lines_iff, ← delivers]
  rfl

theorem sent_iff_uneven_greeting :
    sentText ((Sender.start (input [['h', 'i'], []])).run 0 2).2 =
      input [['h', 'i']] := by
  have plain : ∀ line ∈ [['h', 'i'], []], Plain line := by decide
  exact ((sent_iff_uneven plain 0).2 2 (by decide +kernel)).mpr (by decide)

private def fullLine : List Char := List.replicate (MAX_TEXT - 1) 'a'

/-- A line as long as one part is sent without its newline. -/
theorem newline_lost :
    ¬ ∀ {lines : List (List Char)}, (∀ line ∈ lines, Plain line) →
      ∀ myId n, ((Sender.start (input lines)).run myId n).1.stdin = [] →
        sentText ((Sender.start (input lines)).run myId n).2 =
          input (lines.filter (· ≠ [])) := by
  intro always
  have plain : ∀ line ∈ [fullLine], Plain line := by decide +kernel
  have same := always plain 0 2 (by decide +kernel)
  revert same
  decide +kernel

end Lines

/-- What the chat calls typed is what the loop sends. -/
theorem iterate_typed {index : Nat} {myId : Int} {serverQ : List ChatMessage}
    {client : Client} {sender : Sender} {text stdin : List Char}
    (here : client.parent = .reading myId)
    (read : fgets sender.text MAX_TEXT sender.stdin = some (text, stdin)) :
    (parentStep index (cString text) serverQ client).map
        (fun (_, _, events) => events) =
      some ((sender.iterate myId).2.map fun msg => .typed index msg.text) := by
  rw [parentStep, here, Sender.iterate, read]
  dsimp only
  split <;> rfl

end SysOp.Lab4
