import Mathlib.Data.List.DropRight

/-!
# Buffered streams

What a program prints is kept in a buffer until the stream passes it on: at the
end of each line, or when the buffer is full.  The pending items are ordinary
memory of the program.
-/

namespace SysOp.Foundation

universe u

inductive Buffering where
  | line
  | full (capacity : Nat)
  deriving DecidableEq

def isNewline (byte : UInt8) : Bool := byte = 10

variable {Item : Type u}

/-- What is passed on, and what is pending then.  A full buffer may pass on more
than it must; `early` tells how much it does. -/
def Buffering.print (buffering : Buffering) (isEnd : Item → Bool)
    (early : Nat) (pending text : List Item) : Option (List Item × List Item) :=
  let all := pending ++ text
  match buffering with
  | .line =>
      some (all.rdropWhile fun item => !isEnd item,
        all.rtakeWhile fun item => !isEnd item)
  | .full capacity =>
      if all.length ≤ capacity then some ([], all)
      else if all.length ≤ capacity + early then
        some (all.take early, all.drop early)
      else none

/-- No line is left unfinished. -/
def Whole (isEnd : Item → Bool) (text : List Item) : Prop :=
  ∀ last ∈ text.getLast?, isEnd last

theorem Whole.nil (isEnd : Item → Bool) : Whole isEnd [] := by
  intro last final
  cases final

theorem Whole.concat {isEnd : Item → Bool} {last : Item} (front : List Item)
    (ends : isEnd last) : Whole isEnd (front ++ [last]) := by
  intro item final
  rw [List.getLast?_concat] at final
  cases final
  exact ends

variable {isEnd : Item → Bool} {buffering : Buffering} {early capacity : Nat}
  {pending text passed kept : List Item}

/-- Nothing is lost. -/
theorem Buffering.print_append
    (printed : buffering.print isEnd early pending text =
      some (passed, kept)) : passed ++ kept = pending ++ text := by
  cases buffering with
  | line =>
      cases printed
      exact List.rdropWhile_append_rtakeWhile ..
  | full capacity =>
      simp only [Buffering.print] at printed
      split at printed
      · cases printed
        rfl
      · split at printed
        · cases printed
          exact List.take_append_drop ..
        · cases printed

/-- Whole lines are passed on at once. -/
theorem Buffering.print_line
    (printed : Buffering.line.print isEnd early pending text =
      some (passed, kept)) (whole : Whole isEnd (pending ++ text)) :
    passed = pending ++ text ∧ kept = [] := by
  have all := Buffering.print_append printed
  cases printed
  have none : (pending ++ text).rtakeWhile (fun item => !isEnd item) = [] := by
    rw [List.rtakeWhile_eq_nil_iff]
    intro nonempty
    simpa using whole _ (List.getLast?_eq_some_getLast nonempty)
  rw [none, List.append_nil] at all
  exact ⟨all, none⟩

/-- What the buffer has room for stays there. -/
theorem Buffering.print_full
    (printed : (Buffering.full capacity).print isEnd early pending text =
      some (passed, kept)) (room : (pending ++ text).length ≤ capacity) :
    passed = [] ∧ kept = pending ++ text := by
  simp only [Buffering.print, if_pos room] at printed
  cases printed
  exact ⟨rfl, rfl⟩

/-- The stream can always pass on everything. -/
theorem Buffering.print_isSome (buffering : Buffering) (isEnd : Item → Bool)
    (pending text : List Item) :
    (buffering.print isEnd (pending ++ text).length pending text).isSome := by
  cases buffering with
  | line => rfl
  | full capacity =>
      simp only [Buffering.print]
      split
      · rfl
      · rw [if_pos (Nat.le_add_left _ _)]
        rfl

/-- Of several copies of a text it does not matter which one goes first. -/
theorem append_flatten_set_nil {text : List Item} {texts : List (List Item)}
    {index : Nat} (copies : ∀ other ∈ texts, other = [] ∨ other = text)
    (found : texts[index]? = some text) :
    text ++ (texts.set index []).flatten = texts.flatten := by
  induction texts generalizing index with
  | nil => cases found
  | cons first rest inductionHypothesis =>
      rw [List.forall_mem_cons] at copies
      cases index with
      | zero =>
          cases found
          rfl
      | succ index =>
          have behind := inductionHypothesis copies.2 found
          rw [List.set_cons_succ, List.flatten_cons, List.flatten_cons,
            ← behind]
          rcases copies.1 with rfl | rfl
          · rfl
          · rfl

end SysOp.Foundation
