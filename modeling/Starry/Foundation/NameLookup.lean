import Mathlib.Data.List.Infix
import Mathlib.Tactic

/-!
# Names in nested namespaces

A namespace is the list of the names of the namespaces around it and its own, outermost first. A
name that is used inside a namespace is looked up there, then in the namespace around it, and so
on to the global one, `[]`; the first declaration that counts ends the search. What counts depends
on the use: before a `::` only namespaces and types do. The names after a `::` are looked up in
the namespace before it only.

`lookup_eq_some` says that the search finds a declaration exactly when none hides it, and
`resolve_eq_some` that a qualified name denotes a type exactly when its first name finds the
namespace from which the rest leads there.
-/
namespace Starry.Foundation

inductive Declaration where
  | space | type | other
  deriving DecidableEq, Repr

/-- What each namespace declares under each name. -/
structure Scopes (α : Type) where
  declared : List α → α → Option Declaration

namespace Scopes

variable {α : Type} (scopes : Scopes α)

def Declares (counts : Declaration → Bool) (space : List α) (name : α) : Prop :=
  (scopes.declared space name).any counts = true

instance (counts : Declaration → Bool) (space : List α) (name : α) :
    Decidable (scopes.Declares counts space name) :=
  inferInstanceAs (Decidable (_ = _))

/-- The search of the `n` outermost namespaces around `inside`, from within. -/
def lookupFrom (counts : Declaration → Bool) (inside : List α) (name : α) : Nat → Option (List α)
  | 0 => if scopes.Declares counts [] name then some [] else none
  | n + 1 =>
    if scopes.Declares counts (inside.take (n + 1)) name then some (inside.take (n + 1))
    else lookupFrom counts inside name n

/-- The namespace whose declaration of `name` is found inside `inside`. -/
def lookup (counts : Declaration → Bool) (inside : List α) (name : α) : Option (List α) :=
  scopes.lookupFrom counts inside name inside.length

/-- The type that the rest of a qualified name denotes in the namespace `outer`. -/
def member (outer : List α) (name : α) : List α → Option (List α)
  | [] => if scopes.declared outer name = some .type then some (outer ++ [name]) else none
  | next :: rest =>
    if scopes.declared outer name = some .space then member (outer ++ [name]) next rest else none

def anything (_ : Declaration) : Bool := true

def spaceOrType (declaration : Declaration) : Bool := declaration != .other

/-- What counts for the first name of a qualified name: before a `::` only namespaces and types. -/
def leading : List α → Declaration → Bool
  | [] => anything
  | _ :: _ => spaceOrType

/-- The type that the qualified name `first :: rest` denotes inside `inside`. -/
def resolve (inside : List α) (first : α) (rest : List α) : Option (List α) := do
  let space ← scopes.lookup (leading rest) inside first
  scopes.member space first rest

variable {scopes} {counts : Declaration → Bool} {inside space path : List α} {first name : α}
  {rest : List α}

/-- No namespace further in declares the name. -/
def Unhidden (scopes : Scopes α) (counts : Declaration → Bool) (inside space : List α) (name : α) :
    Prop :=
  ∀ inner, inner <+: inside → space.length < inner.length → ¬scopes.Declares counts inner name

theorem lookupFrom_eq_some {n : Nat} (bound : n ≤ inside.length) :
    scopes.lookupFrom counts inside name n = some space ↔
      ∃ k ≤ n, space = inside.take k ∧ scopes.Declares counts space name ∧
        ∀ j ≤ n, k < j → ¬scopes.Declares counts (inside.take j) name := by
  induction n with
  | zero =>
    unfold lookupFrom
    constructor
    · intro found
      split at found
      next here =>
        cases found
        exact ⟨0, le_rfl, by simp, here, fun j below above => by omega⟩
      next => cases found
    · rintro ⟨k, below, rfl, here, _⟩
      obtain rfl : k = 0 := by omega
      rw [List.take_zero] at here ⊢
      rw [if_pos here]
  | succ n ih =>
    unfold lookupFrom
    by_cases here : scopes.Declares counts (inside.take (n + 1)) name
    · rw [if_pos here]
      constructor
      · intro found
        cases found
        exact ⟨n + 1, le_rfl, rfl, here, fun j below above => by omega⟩
      · rintro ⟨k, below, rfl, _, none⟩
        -- a namespace further out would be hidden by this one
        rcases Nat.lt_or_ge k (n + 1) with outer | same
        · exact absurd here (none (n + 1) le_rfl outer)
        · rw [show k = n + 1 by omega]
    · rw [if_neg here, ih (by omega)]
      constructor
      · rintro ⟨k, below, same, found, none⟩
        refine ⟨k, by omega, same, found, fun j upper above => ?_⟩
        rcases Nat.lt_or_ge j (n + 1) with within' | last
        · exact none j (by omega) above
        · rw [show j = n + 1 by omega]
          exact here
      · rintro ⟨k, below, same, found, none⟩
        rcases Nat.lt_or_ge k (n + 1) with outer | last
        · exact ⟨k, by omega, same, found, fun j upper above => none j (by omega) above⟩
        · rw [show k = n + 1 by omega] at same
          rw [same] at found
          exact absurd found here

/-- A declaration is found exactly when it is around the use and nothing hides it. -/
theorem lookup_eq_some :
    scopes.lookup counts inside name = some space ↔
      space <+: inside ∧ scopes.Declares counts space name ∧
        scopes.Unhidden counts inside space name := by
  rw [lookup, lookupFrom_eq_some le_rfl]
  constructor
  · rintro ⟨k, below, rfl, found, none⟩
    refine ⟨List.take_prefix k inside, found, fun inner around longer => ?_⟩
    rw [List.length_take, Nat.min_eq_left below] at longer
    rw [List.prefix_iff_eq_take.mp around]
    exact none _ around.length_le longer
  · rintro ⟨around, found, none⟩
    refine ⟨space.length, around.length_le, List.prefix_iff_eq_take.mp around, found, ?_⟩
    intro j upper above
    refine none _ (List.take_prefix j inside) ?_
    rw [List.length_take, Nat.min_eq_left upper]
    exact above

theorem member_path (found : scopes.member space first rest = some path) :
    path = space ++ first :: rest := by
  induction rest generalizing space first with
  | nil =>
    unfold member at found
    split at found
    · exact (Option.some.inj found).symm
    · cases found
  | cons next rest ih =>
    unfold member at found
    split at found
    · rw [ih found, List.append_assoc]
      rfl
    · cases found

/-- A qualified name denotes the type at `path` exactly when the search for its first name ends in
a namespace from which the name leads there. -/
theorem resolve_eq_some :
    scopes.resolve inside first rest = some path ↔
      ∃ space, path = space ++ first :: rest ∧ scopes.member space first rest = some path ∧
        space <+: inside ∧ scopes.Declares (leading rest) space first ∧
        scopes.Unhidden (leading rest) inside space first := by
  unfold resolve
  rw [Option.bind_eq_bind, Option.bind_eq_some_iff]
  constructor
  · rintro ⟨space, found, inner⟩
    exact ⟨space, member_path inner, inner, lookup_eq_some.mp found⟩
  · rintro ⟨space, _, inner, found⟩
    exact ⟨space, lookup_eq_some.mpr found, inner⟩

end Scopes

end Starry.Foundation
