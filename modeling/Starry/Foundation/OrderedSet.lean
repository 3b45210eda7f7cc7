import Mathlib.Tactic
import Mathlib.Order.Defs.LinearOrder

/-!
# Ordered sets

The part of `std::set` that an ordered container of keys needs: insertion and erasure of
one key, iteration in ascending order, and the cut at `lower_bound`. A set is its strictly
ascending list of elements, so equal sets are equal lists and the first element is the
least.
-/
namespace Starry.Foundation

structure OrderedSet (α : Type) [LinearOrder α] where
  elements : List α
  ascending : elements.Pairwise (· < ·)

namespace OrderedSet

variable {α : Type} [LinearOrder α]

instance : Membership α (OrderedSet α) := ⟨fun s x => x ∈ s.elements⟩

instance (x : α) (s : OrderedSet α) : Decidable (x ∈ s) :=
  inferInstanceAs (Decidable (x ∈ s.elements))

instance : DecidableEq (OrderedSet α) := fun s t =>
  decidable_of_iff (s.elements = t.elements) (by cases s; cases t; simp)

theorem mem_def {x : α} {s : OrderedSet α} : x ∈ s ↔ x ∈ s.elements := Iff.rfl

def empty : OrderedSet α := ⟨[], List.Pairwise.nil⟩

def size (s : OrderedSet α) : Nat := s.elements.length

def first? (s : OrderedSet α) : Option α := s.elements.head?

/-- Insertion into an ascending list; an element already there is kept. -/
def insertInto (x : α) : List α → List α
  | [] => [x]
  | y :: ys =>
    if x < y then x :: y :: ys
    else if y < x then y :: insertInto x ys
    else y :: ys

/-- Only the new element is added. -/
theorem mem_insertInto {x z : α} {l : List α} : z ∈ insertInto x l ↔ z = x ∨ z ∈ l := by
  induction l with
  | nil => simp [insertInto]
  | cons y ys ih =>
    unfold insertInto
    split
    · simp
    · split
      · simp only [List.mem_cons, ih]
        tauto
      next low high =>
        have same : x = y := le_antisymm (not_lt.mp high) (not_lt.mp low)
        simp [same]

/-- The list stays in order. -/
theorem ascending_insertInto {x : α} {l : List α} (ascending : l.Pairwise (· < ·)) :
    (insertInto x l).Pairwise (· < ·) := by
  induction l with
  | nil => simp [insertInto]
  | cons y ys ih =>
    rw [List.pairwise_cons] at ascending
    unfold insertInto
    split
    next low =>
      rw [List.pairwise_cons]
      refine ⟨?_, List.pairwise_cons.mpr ascending⟩
      intro z member
      rcases List.mem_cons.mp member with rfl | later
      · exact low
      · exact low.trans (ascending.1 z later)
    next =>
      split
      next high =>
        rw [List.pairwise_cons]
        refine ⟨?_, ih ascending.2⟩
        intro z member
        rcases mem_insertInto.mp member with rfl | later
        · exact high
        · exact ascending.1 z later
      next => exact List.pairwise_cons.mpr ascending

def insert (s : OrderedSet α) (x : α) : OrderedSet α :=
  ⟨insertInto x s.elements, ascending_insertInto s.ascending⟩

def erase (s : OrderedSet α) (x : α) : OrderedSet α :=
  ⟨s.elements.filter (· ≠ x), s.ascending.filter _⟩

/-- The elements from `begin()` to `lower_bound(bound)`. -/
def below (s : OrderedSet α) (bound : α) : List α := s.elements.filter (· < bound)

/-- The elements from `lower_bound(bound)` on. -/
def above (s : OrderedSet α) (bound : α) : OrderedSet α :=
  ⟨s.elements.filter (bound ≤ ·), s.ascending.filter _⟩

variable {s : OrderedSet α} {x y : α}

@[simp] theorem not_mem_empty : x ∉ (empty : OrderedSet α) := by simp [mem_def, empty]

@[simp] theorem mem_insert : y ∈ s.insert x ↔ y = x ∨ y ∈ s := mem_insertInto

@[simp] theorem mem_erase : y ∈ s.erase x ↔ y ∈ s ∧ y ≠ x := by
  simp [mem_def, erase]

@[simp] theorem mem_below : y ∈ s.below x ↔ y ∈ s ∧ y < x := by
  simp [mem_def, below]

@[simp] theorem mem_above : y ∈ s.above x ↔ y ∈ s ∧ x ≤ y := by
  simp [mem_def, above]

theorem below_ascending (s : OrderedSet α) (bound : α) : (s.below bound).Pairwise (· < ·) :=
  s.ascending.filter _

theorem first?_eq_none : s.first? = none ↔ ∀ z, z ∉ s := by
  rw [first?, List.head?_eq_none_iff]
  constructor
  · intro none z
    rw [mem_def, none]
    exact List.not_mem_nil
  · intro none
    exact List.eq_nil_iff_forall_not_mem.mpr none

/-- The first element is the smallest. -/
theorem first?_eq_some (first : s.first? = some x) : x ∈ s ∧ ∀ z ∈ s, x ≤ z := by
  have order := s.ascending
  obtain ⟨rest, whole⟩ : ∃ rest, s.elements = x :: rest := by
    rw [first?] at first
    cases listed : s.elements with
    | nil => simp [listed] at first
    | cons head rest =>
      rw [listed] at first
      cases first
      exact ⟨rest, rfl⟩
  rw [whole, List.pairwise_cons] at order
  refine ⟨by simp [mem_def, whole], ?_⟩
  intro z member
  rw [mem_def, whole] at member
  rcases List.mem_cons.mp member with rfl | later
  · exact le_refl _
  · exact (order.1 z later).le

end OrderedSet

end Starry.Foundation
