import Mathlib.Data.Finmap

/-!
# Tables of file descriptors

A process refers to open files by numbers, each of which stands for at most one
file.
-/

namespace SysOp.Foundation

universe u

abbrev DescriptorTable (File : Type u) := Finmap fun _ : Nat => File

namespace DescriptorTable

variable {File : Type u}

/-- Some number stands for the file. -/
def HasOpen (table : DescriptorTable File) (file : File) : Prop :=
  ∃ fd ∈ table.keys, table.lookup fd = some file

instance [DecidableEq File] (table : DescriptorTable File) (file : File) :
    Decidable (table.HasOpen file) :=
  inferInstanceAs (Decidable (∃ fd ∈ table.keys, table.lookup fd = some file))

theorem hasOpen_iff {table : DescriptorTable File} {file : File} :
    table.HasOpen file ↔ ∃ fd, table.lookup fd = some file := by
  constructor
  · rintro ⟨fd, _, found⟩
    exact ⟨fd, found⟩
  · rintro ⟨fd, found⟩
    exact ⟨fd, Finmap.mem_keys.mpr (Finmap.mem_of_lookup_eq_some found), found⟩

@[simp]
theorem not_hasOpen_empty (file : File) :
    ¬ HasOpen (∅ : DescriptorTable File) file := by
  simp [hasOpen_iff]

variable {table : DescriptorTable File} {fd number : Nat} {file other : File}

@[simp]
theorem lookup_erase_eq_some_iff :
    (table.erase fd).lookup number = some other ↔
      number ≠ fd ∧ table.lookup number = some other := by
  by_cases same : number = fd
  · subst same
    simp
  · simp [Finmap.lookup_erase_ne same, same]

@[simp]
theorem lookup_insert_eq_some_iff :
    (table.insert fd file).lookup number = some other ↔
      number = fd ∧ other = file ∨
        number ≠ fd ∧ table.lookup number = some other := by
  by_cases same : number = fd
  · subst same
    simp [eq_comm]
  · simp [Finmap.lookup_insert_of_ne _ same, same]

end DescriptorTable

end SysOp.Foundation
