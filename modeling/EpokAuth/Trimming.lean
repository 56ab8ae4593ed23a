import Mathlib.Data.List.TakeWhile

namespace Trimming

/-!
# Trimmed lists

A list is trimmed by removing the elements at either end that have a property.
Trimming forgets what surrounds a list, and commutes with any replacement of
its elements that leaves those with the property as they are.
-/

variable
  {property : α → Bool}
  {list before after : List α}

/-- A list without the elements at either end that have a property. -/
def trim (property : α → Bool) (list : List α) : List α :=
  ((list.dropWhile property).reverse.dropWhile property).reverse

/-- Nothing is removed where nothing has the property. -/
theorem dropWhile_eq_self
    (free : ∀ element ∈ list, property element = false) :
    list.dropWhile property = list := by
  cases list with
  | nil => rfl
  | cons head tail =>
      rw [List.dropWhile_cons_of_neg]
      simp [free head List.mem_cons_self]

theorem trim_eq_self
    (free : ∀ element ∈ list, property element = false) :
    trim property list = list := by
  have freeReversed : ∀ element ∈ list.reverse, property element = false :=
    fun element member => free element (List.mem_reverse.mp member)
  rw [trim, dropWhile_eq_self free, dropWhile_eq_self freeReversed,
    List.reverse_reverse]

/-- Nothing is removed behind a first element without the property. -/
theorem dropWhile_eq_self_of_head
    (first : ∀ head, list.head? = some head → property head = false) :
    list.dropWhile property = list := by
  cases list with
  | nil => rfl
  | cons head tail =>
      rw [List.dropWhile_cons_of_neg]
      simp [first head rfl]

/-- Nothing is trimmed between elements without the property. -/
theorem trim_eq_self_of_ends
    (first : ∀ head, list.head? = some head → property head = false)
    (final : ∀ last, list.getLast? = some last → property last = false) :
    trim property list = list := by
  have firstReversed :
      ∀ head, list.reverse.head? = some head → property head = false := by
    intro head isHead
    rw [List.head?_reverse] at isHead
    exact final head isHead
  rw [trim, dropWhile_eq_self_of_head first,
    dropWhile_eq_self_of_head firstReversed, List.reverse_reverse]

/-- Trimming forgets surrounding elements with the property. -/
theorem trim_pad
    (leading : ∀ element ∈ before, property element = true)
    (trailing : ∀ element ∈ after, property element = true) :
    trim property (before ++ list ++ after) = trim property list := by
  have trailingReversed :
      ∀ element ∈ after.reverse, property element = true :=
    fun element member => trailing element (List.mem_reverse.mp member)
  rw [trim, trim, List.append_assoc, List.dropWhile_append_of_pos leading,
    List.dropWhile_append]
  split
  · rename_i empty
    rw [List.isEmpty_iff.mp empty, List.dropWhile_eq_nil_iff.mpr trailing]
  · rw [List.reverse_append, List.dropWhile_append_of_pos trailingReversed]

section Replacement

variable
  {replace : α → List α}

/-- Removing from the front commutes with replacing the other elements. -/
theorem dropWhile_flatMap
    (kept : ∀ element, property element = true → replace element = [element])
    (inhabited : ∀ element, replace element ≠ [])
    (outside :
      ∀ element, property element = false →
        ∀ other ∈ replace element, property other = false) :
    (list.flatMap replace).dropWhile property =
      (list.dropWhile property).flatMap replace := by
  induction list with
  | nil => rfl
  | cons head tail inductionHypothesis =>
      rw [List.flatMap_cons]
      cases removed : property head with
      | true =>
          rw [kept head removed, List.singleton_append,
            List.dropWhile_cons_of_pos removed,
            List.dropWhile_cons_of_pos removed]
          exact inductionHypothesis
      | false =>
          have remains : ¬ property head = true := by simp [removed]
          rw [List.dropWhile_cons_of_neg remains, List.flatMap_cons]
          have free := outside head removed
          cases replaced : replace head with
          | nil => exact absurd replaced (inhabited head)
          | cons first rest =>
              rw [replaced] at free
              rw [List.cons_append, List.dropWhile_cons_of_neg]
              simp [free first List.mem_cons_self]

/-- Trimming commutes with replacing the other elements. -/
theorem trim_flatMap
    (kept : ∀ element, property element = true → replace element = [element])
    (inhabited : ∀ element, replace element ≠ [])
    (outside :
      ∀ element, property element = false →
        ∀ other ∈ replace element, property other = false) :
    trim property (list.flatMap replace) =
      (trim property list).flatMap replace := by
  have twice : List.reverse ∘ List.reverse ∘ replace = replace :=
    funext fun element => List.reverse_reverse (replace element)
  rw [trim, trim, dropWhile_flatMap kept inhabited outside,
    List.reverse_flatMap, dropWhile_flatMap, List.reverse_flatMap, twice]
  · intro element removed
    simp [kept element removed]
  · intro element
    simp [inhabited element]
  · intro element remains other member
    exact outside element remains other
      (List.mem_reverse.mp (by simpa using member))

end Replacement

end Trimming
