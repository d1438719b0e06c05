import Mathlib.Data.List.Basic

/-!
# Names that are opened or created

A name stands for an object or for none.  To open it creates an object where
there is none; to unlink it leaves the object to those who have it open.  An
object that has not been made yet reads as it is going to be made.
-/

namespace SysOp.Foundation

universe u

/-- `current` is the object the name stands for. -/
structure Named (Object : Type u) where
  current : Option Nat
  objects : List Object

namespace Named

variable {Object : Type u}

def init : Named Object where
  current := none
  objects := []

/-- The object that is open, made with this value if there is none. -/
def openCreate (named : Named Object) (value : Object) : Named Object × Nat :=
  match named.current with
  | some id => (named, id)
  | none =>
      ({ current := some named.objects.length
         objects := named.objects ++ [value] }, named.objects.length)

def unlink (named : Named Object) : Named Object :=
  { named with current := none }

def read (named : Named Object) (value : Object) (id : Nat) : Object :=
  named.objects[id]?.getD value

def write (named : Named Object) (id : Nat) (object : Object) :
    Named Object :=
  { named with objects := named.objects.set id object }

/-- The object has been made. -/
def Made (named : Named Object) (id : Nat) : Prop :=
  id < named.objects.length

/-- The name stands for nothing that has not been made. -/
def Sound (named : Named Object) : Prop :=
  ∀ id, named.current = some id → named.Made id

/-- The name stands for the same of what had been made before. -/
def Steady (named after : Named Object) : Prop :=
  ∀ {id}, named.Made id → (after.current = some id ↔ named.current = some id)

variable {named : Named Object} {id other : Nat} (value object : Object)

theorem init_sound : (init : Named Object).Sound := by
  intro id current
  cases current

theorem openCreate_of_current (current : named.current = some id) :
    named.openCreate value = (named, id) := by
  rw [openCreate, current]

/-- To open a name gives what it stands for from then on. -/
theorem current_openCreate :
    (named.openCreate value).1.current = some (named.openCreate value).2 := by
  unfold openCreate
  split
  next current => exact current
  next => rfl

theorem made_openCreate (made : named.Made id) :
    (named.openCreate value).1.Made id := by
  unfold openCreate
  split
  · exact made
  · rw [Made, List.length_append]
    exact Nat.lt_succ_of_lt made

theorem openCreate_sound (sound : named.Sound) :
    (named.openCreate value).1.Sound := by
  unfold openCreate
  split
  next => exact sound
  next absent =>
    intro id current
    obtain rfl := Option.some.inj current
    rw [Made, List.length_append]
    exact Nat.lt_succ_self _

theorem made_of_openCreate (sound : named.Sound) :
    (named.openCreate value).1.Made (named.openCreate value).2 :=
  openCreate_sound value sound _ (current_openCreate value)

/-- What is not open is not what is made. -/
theorem openCreate_ne (made : named.Made id)
    (other : named.current ≠ some id) :
    (named.openCreate value).2 ≠ id := by
  unfold openCreate
  split
  next current =>
    intro same
    exact other (same ▸ current)
  next =>
    exact (Nat.ne_of_lt made).symm

theorem openCreate_steady :
    named.Steady (named.openCreate value).1 := by
  intro id made
  constructor
  · intro current
    by_contra other
    rw [current_openCreate] at current
    exact openCreate_ne value made other (Option.some.inj current)
  · intro current
    rwa [openCreate_of_current value current]

/-- To make an object changes no reading. -/
theorem read_openCreate :
    (named.openCreate value).1.read value id = named.read value id := by
  unfold openCreate
  split
  · rfl
  · rw [read, read]
    rcases Nat.lt_trichotomy id named.objects.length with old | last | beyond
    · rw [List.getElem?_append_left old]
    · rw [last, List.getElem?_concat_length, List.getElem?_eq_none (Nat.le_refl _)]
      rfl
    · rw [List.getElem?_eq_none, List.getElem?_eq_none (Nat.le_of_lt beyond)]
      rw [List.length_append]
      exact beyond

theorem unlink_sound : named.unlink.Sound := by
  intro id current
  cases current

theorem write_sound (sound : named.Sound) :
    (named.write id object).Sound := by
  intro other current
  have made := sound other current
  rwa [Made, write, List.length_set]

theorem made_write_iff :
    (named.write id object).Made other ↔ named.Made other := by
  rw [Made, write, List.length_set, Made]

theorem write_of_not_made (unmade : ¬ named.Made id) :
    named.write id object = named := by
  rw [write, List.set_eq_of_length_le (Nat.le_of_not_lt unmade)]

theorem read_write_self (made : named.Made id) :
    (named.write id object).read value id = object := by
  rw [read, write, List.getElem?_set_self made]
  rfl

theorem read_write_of_ne (different : other ≠ id) :
    (named.write id object).read value other = named.read value other := by
  rw [read, write, List.getElem?_set_ne different.symm, read]

end Named

end SysOp.Foundation
