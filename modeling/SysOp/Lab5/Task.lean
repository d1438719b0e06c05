import Mathlib.Data.Fintype.Basic

/-!
# Task texts

The character buffers of `common.h` and the two functions that write them.
All buffers have `TASK_LEN` bytes and every `strncpy` copies that many, so
the old content of a destination never shows.
-/

namespace SysOp.Lab5

/-- Ten characters and the terminating NUL. -/
abbrev TASK_LEN : Nat := 11

def nul : Char := Char.ofNat 0

structure Task where
  text : Vector Char TASK_LEN
  deriving DecidableEq

/-- A slot of freshly mapped memory. -/
def Task.zeroed : Task := ⟨Vector.replicate TASK_LEN nul⟩

instance : Inhabited Task := ⟨Task.zeroed⟩

/-- `strncpy(dst, src, TASK_LEN)`: everything after the first NUL of the
source is padded with NULs. -/
def strncpy (source : Task) : Task :=
  ⟨Vector.ofFn fun index =>
    if ∃ earlier : Fin TASK_LEN, earlier < index ∧ source.text[earlier] = nul
    then nul else source.text[index]⟩

def charset : List Char :=
  "ABCDEFGHIJKLMNOPQRSTUVWXYZabcdefghijklmnopqrstuvwxyz0123456789".toList

theorem charset_length_pos : 0 < charset.length := by decide

theorem nul_not_mem_charset : nul ∉ charset := by decide

/-- A buffer filled by a producer: its only NUL is the last character. -/
structure TaskString extends Task where
  filled : ∀ index : Fin TASK_LEN, index.val < TASK_LEN - 1 → text[index] ≠ nul
  terminated : text[TASK_LEN - 1] = nul

/-- `generate_random_string(str, TASK_LEN - 1)`, where `rand index` is what
`rand()` returns in the iteration that writes `str[index]`. -/
def generateRandomString (rand : Nat → Nat) : TaskString where
  text := Vector.ofFn fun index =>
    if index.val < TASK_LEN - 1 then
      charset.get ⟨rand index % charset.length,
        Nat.mod_lt _ charset_length_pos⟩
    else nul
  filled := by
    intro index inside same
    apply nul_not_mem_charset
    rw [← same]
    simp only [Fin.getElem_fin, Vector.getElem_ofFn, inside, if_true]
    exact List.getElem_mem _
  terminated := by simp

/-- Copying a producer's string alters nothing. -/
theorem strncpy_taskString (source : TaskString) :
    strncpy source.toTask = source.toTask := by
  have noEarlierNul : ∀ index : Fin TASK_LEN, ¬ ∃ earlier : Fin TASK_LEN,
      earlier < index ∧ source.text[earlier] = nul := by
    rintro index ⟨earlier, before, isNul⟩
    apply source.filled earlier _ isNul
    have inRange := index.isLt
    have ordered : earlier.val < index.val := before
    omega
  simp only [strncpy, noEarlierNul, if_false]
  congr 1
  ext position inRange
  simp

/-- A task some producer wrote. -/
def Task.IsString (task : Task) : Prop :=
  ∃ source : TaskString, source.toTask = task

theorem TaskString.isString (source : TaskString) : source.toTask.IsString :=
  ⟨source, rfl⟩

theorem Task.IsString.strncpy {task : Task} (written : task.IsString) :
    strncpy task = task := by
  obtain ⟨source, rfl⟩ := written
  exact strncpy_taskString source

end SysOp.Lab5
