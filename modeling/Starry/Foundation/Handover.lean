import Mathlib.Data.List.Perm.Subperm

/-!
# Items handed from threads to a consumer

Items enter either directly at the consumer, or wait in the hands of their threads, in no
order, until they are put at the end of a queue from which the consumer takes them. A step
takes in at most one item and loses none: `Moves.all`. The consumer's list only grows at its
end: `Moves.given_prefix`. Steps over items that are images of others are images of steps
(`Moves.of_map`), so a result about coded items is one about the items themselves.
-/
namespace Starry.Foundation

structure Handover (α : Type) where
  /-- Taken by the consumer, in its order. -/
  given : List α
  queued : List α
  waiting : List α

namespace Handover

variable {α β : Type}

def all (h : Handover α) : List α := h.given ++ (h.queued ++ h.waiting)

def map (f : α → β) (h : Handover α) : Handover β where
  given := h.given.map f
  queued := h.queued.map f
  waiting := h.waiting.map f

/-- One step, with the item it takes in. -/
inductive Moves : Handover α → Option α → Handover α → Prop
  | rest (h : Handover α) : Moves h none h
  | give (h : Handover α) (item : α) : Moves h (some item) { h with given := h.given ++ [item] }
  | wait (h : Handover α) (item : α) :
      Moves h (some item) { h with waiting := h.waiting ++ [item] }
  | queue {h : Handover α} {before after : List α} {item : α}
      (found : h.waiting = before ++ item :: after) :
      Moves h none { h with queued := h.queued ++ [item], waiting := before ++ after }
  | take {h : Handover α} {later : List α} {item : α} (front : h.queued = item :: later) :
      Moves h none { h with given := h.given ++ [item], queued := later }

/-- Nothing is lost or doubled by a move; what enters is added. -/
theorem Moves.all {h h' : Handover α} {entering : Option α} (moves : Moves h entering h') :
    h'.all.Perm (h.all ++ entering.toList) := by
  unfold Handover.all
  cases moves with
  | rest => simp
  | give item =>
    rw [List.append_assoc, List.append_assoc, List.perm_append_left_iff]
    exact List.perm_append_comm
  | wait item => simp
  | @queue before after item found =>
    simp only [found, Option.toList_none, List.append_nil, List.append_assoc,
      List.perm_append_left_iff, List.singleton_append]
    exact List.perm_middle.symm
  | take front => simp [front]

theorem Moves.given_prefix {h h' : Handover α} {entering : Option α}
    (moves : Moves h entering h') : h.given <+: h'.given := by
  cases moves with
  | rest | wait | queue => exact List.prefix_refl _
  | give | take => exact List.prefix_append _ _

/-- A step over coded items is the code of a step. -/
theorem Moves.of_map {f : α → β} {h : Handover α} {entering : Option α} {coded : Handover β}
    (moves : Moves (h.map f) (entering.map f) coded) :
    ∃ h', Moves h entering h' ∧ coded = h'.map f := by
  cases entering with
  | none =>
    cases moves with
    | rest => exact ⟨h, .rest h, rfl⟩
    | @queue before after item found =>
      obtain ⟨front, back, split, rfl, same⟩ := List.map_eq_append_iff.mp found
      obtain ⟨original, rest, rfl, rfl, rfl⟩ := List.map_eq_cons_iff.mp same
      exact ⟨_, .queue split, by simp [map]⟩
    | @take later item front =>
      obtain ⟨original, rest, split, rfl, rfl⟩ := List.map_eq_cons_iff.mp front
      exact ⟨_, .take split, by simp [map]⟩
  | some item =>
    cases moves with
    | give => exact ⟨_, .give h item, by simp [map]⟩
    | wait => exact ⟨_, .wait h item, by simp [map]⟩

end Handover

end Starry.Foundation
