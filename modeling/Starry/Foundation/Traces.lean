import Mathlib.Data.List.Basic
import Mathlib.Data.List.Induction

/-!
# What follows what in a trace

That an event `b` occurs after an event `a` in a trace is `[a, b].Sublist trace`, and so on
for longer patterns. A pattern appears when its last event is appended to a trace that
already has the rest of it.
-/
namespace Starry.Foundation

variable {α : Type} {trace : List α}

/-- The last of a sublist is before the new event or is that event. -/
theorem snoc_sublist {l : List α} {a b : α} :
    (l ++ [a]).Sublist (trace ++ [b]) ↔ (l ++ [a]).Sublist trace ∨ a = b ∧ l.Sublist trace := by
  rw [← List.reverse_sublist, List.reverse_append, List.reverse_append]
  simp only [List.reverse_singleton, List.singleton_append]
  rw [List.cons_sublist_cons', List.reverse_sublist, ← List.reverse_concat, List.reverse_sublist]

theorem pair_sublist {x y z : α} :
    [x, y].Sublist (trace ++ [z]) ↔ [x, y].Sublist trace ∨ y = z ∧ x ∈ trace := by
  have split := @snoc_sublist α trace [x] y z
  rwa [List.singleton_sublist] at split

/-- Where the two parts of a pattern may stand in a trace that goes on. -/
theorem pair_sublist_append {later : List α} {x y : α} (found : [x, y].Sublist (trace ++ later)) :
    [x, y].Sublist trace ∨ (x ∈ trace ∨ x ∈ later) ∧ y ∈ later := by
  induction later using List.reverseRecOn with
  | nil =>
    rw [List.append_nil] at found
    exact .inl found
  | append_singleton later z ih =>
    rw [← List.append_assoc, pair_sublist] at found
    rcases found with before | ⟨rfl, member⟩
    · rcases ih before with front | ⟨first, last⟩
      · exact .inl front
      · exact .inr ⟨first.imp_right (List.mem_append_left _), List.mem_append_left _ last⟩
    · rcases List.mem_append.mp member with front | back
      · exact .inr ⟨.inl front, List.mem_append_right _ List.mem_cons_self⟩
      · exact .inr ⟨.inr (List.mem_append_left _ back), List.mem_append_right _ List.mem_cons_self⟩

theorem triple_sublist {w x y z : α} :
    [w, x, y].Sublist (trace ++ [z]) ↔ [w, x, y].Sublist trace ∨ y = z ∧ [w, x].Sublist trace :=
  @snoc_sublist α trace [w, x] y z

end Starry.Foundation
