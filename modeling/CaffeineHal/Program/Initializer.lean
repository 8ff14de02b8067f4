import Mathlib.Data.List.Nodup

/-!
# Arrays with designated initializers

`designated n zero inits` is the array of `n` elements that the initializers `[index] = value` of `inits`
make: they are stored in their order, and an element that none of them names is `zero`.
-/

set_option autoImplicit false

namespace CaffeineHal.Program

universe u

variable {α : Type u}

/-- The initializers, stored one after the other. -/
def initialized : List (Nat × α) → Array α → Array α
  | [], table => table
  | (index, value) :: inits, table => initialized inits (table.setIfInBounds index value)

/-- An array of `n` elements with designated initializers. -/
def designated (n : Nat) (zero : α) (inits : List (Nat × α)) : Array α :=
  initialized inits (Array.replicate n zero)

/-- What the initializers make of an element that was `old`. -/
def elementAfter : List (Nat × α) → Nat → α → α
  | [], _, old => old
  | (index, value) :: inits, i, old => elementAfter inits i (if index = i then value else old)

theorem getElem?_initialized (inits : List (Nat × α)) (table : Array α) (i : Nat) :
    (initialized inits table)[i]? = table[i]?.map (elementAfter inits i) := by
  induction inits generalizing table with
  | nil =>
      show table[i]? = table[i]?.map fun old => old
      rw [Option.map_id']
  | cons init inits ih =>
      obtain ⟨index, value⟩ := init
      rw [initialized, ih, Array.getElem?_setIfInBounds]
      by_cases hi : index = i
      · subst hi
        by_cases hlt : index < table.size
        · simp [hlt, elementAfter]
        · simp [hlt]
      · simp only [elementAfter, if_neg hi]

/-- An element that no initializer names keeps its value. -/
theorem elementAfter_of_not_mem {inits : List (Nat × α)} {i : Nat}
    (h : i ∉ inits.map Prod.fst) (old : α) : elementAfter inits i old = old := by
  induction inits generalizing old with
  | nil => rfl
  | cons init inits ih =>
      obtain ⟨index, value⟩ := init
      rw [List.map_cons, List.mem_cons, not_or] at h
      rw [elementAfter, if_neg (Ne.symm h.1)]
      exact ih h.2 old

/-- With every index named once, an element has the value of its initializer. -/
theorem elementAfter_of_mem {inits : List (Nat × α)} {i : Nat} {value : α}
    (hnodup : (inits.map Prod.fst).Nodup) (h : (i, value) ∈ inits) (old : α) :
    elementAfter inits i old = value := by
  induction inits generalizing old with
  | nil => cases h
  | cons init inits ih =>
      rw [List.map_cons, List.nodup_cons] at hnodup
      rcases List.mem_cons.1 h with rfl | h
      · rw [elementAfter, if_pos rfl]
        exact elementAfter_of_not_mem hnodup.1 value
      · exact ih hnodup.2 h _

variable {n : Nat} {zero : α} {inits : List (Nat × α)} {i : Nat}

theorem getElem?_designated (hi : i < n) :
    (designated n zero inits)[i]? = some (elementAfter inits i zero) := by
  rw [designated, getElem?_initialized, Array.getElem?_replicate, if_pos hi, Option.map_some]

end CaffeineHal.Program
