/-
**Tables of changing values under fixed numbers.**

A new value gets the next number, and keeps it.

* `get?_add`: adding a value changes no other look-up;
* `get?_set`: setting a value changes that look-up only, and adds nothing.
-/

namespace StoreTopology

/-- Values numbered in the order of their addition. -/
structure Table (α : Type) where
  values : List α := []

namespace Table

variable {α : Type}

/-- The number of the next value. -/
def next (table : Table α) : Nat := table.values.length

def get? (table : Table α) (number : Nat) : Option α := table.values[number]?

/-- Give a value the next number. -/
def add (table : Table α) (value : α) : Table α := ⟨table.values ++ [value]⟩

/-- Replace the value of a number that has one. -/
def set (table : Table α) (number : Nat) (value : α) : Table α := ⟨table.values.set number value⟩

theorem get?_add (table : Table α) (value : α) (number : Nat) :
    (table.add value).get? number =
      if number = table.next then some value else table.get? number := by
  by_cases same : number = table.next
  · rw [if_pos same, same]
    simp [get?, add, next]
  · rw [if_neg same]
    simp only [get?, add, List.getElem?_append]
    split
    · rfl
    · next notBelow =>
      have beyond : table.values.length < number := by
        rw [next] at same
        omega
      rw [List.getElem?_eq_none (by simp; omega), List.getElem?_eq_none (by omega)]

/-- A new default is found, as where nothing is. -/
theorem getD_get?_add (table : Table α) (default : α) (number : Nat) :
    ((table.add default).get? number).getD default = (table.get? number).getD default := by
  rw [get?_add]
  split
  · next isNew =>
    have missing : table.get? number = none := List.getElem?_eq_none (Nat.le_of_eq isNew.symm)
    rw [missing]
    rfl
  · rfl

theorem get?_set (table : Table α) (number other : Nat) (value : α) :
    (table.set number value).get? other =
      if number = other ∧ other < table.next then some value else table.get? other := by
  simp only [get?, set, List.getElem?_set]
  by_cases same : number = other
  · subst same
    by_cases present : number < table.values.length
    · rw [if_pos rfl, if_pos present, if_pos ⟨rfl, present⟩]
    · rw [if_pos rfl, if_neg present, if_neg fun both => present both.2,
        List.getElem?_eq_none (by omega)]
  · rw [if_neg same, if_neg fun both => same both.1]

@[simp] theorem next_add (table : Table α) (value : α) :
    (table.add value).next = table.next + 1 := by simp [next, add]

@[simp] theorem next_set (table : Table α) (number : Nat) (value : α) :
    (table.set number value).next = table.next := by simp [next, set]

end Table

end StoreTopology
